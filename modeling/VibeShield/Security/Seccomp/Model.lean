import Mathlib.Data.List.Sort
import Mathlib.Data.String.Basic
import VibeShield.Lib.PyDict
import VibeShield.Python.Value
import VibeShield.Security.Utils

/-!
# Seccomp profiles

A profile is built up by adding syscalls to its allowlist and by blocking single
syscalls, and is then written as a list of rules (`SeccompProfile.toDict`), in one
of two modes: from scratch, denying by default (`toDictDefaultDeny`), or hardening
a base profile, i.e. Podman's default one (`toDictHarden`).

Python iterates over a set in no particular order; the order in which it visits
`BLOCKLIST_SYSCALLS` is an argument.
-/

namespace VibeShield

/-- The actions of rules. -/
inductive SeccompAction
  | kill
  | errno
  | trace
  | allow
  | log
deriving DecidableEq, Repr

/-- `action.value`. -/
def SeccompAction.value : SeccompAction → String
  | kill => "SCMP_ACT_KILL"
  | errno => "SCMP_ACT_ERRNO"
  | trace => "SCMP_ACT_TRACE"
  | allow => "SCMP_ACT_ALLOW"
  | log => "SCMP_ACT_LOG"

/-- `SeccompAction(value)`. -/
def SeccompAction.ofValue (value : String) : Except PyErr SeccompAction :=
  match [kill, errno, trace, allow, log].find? fun a => a.value = value with
  | some a => .ok a
  | none => .error ⟨.valueError, s!"'{value}' is not a valid SeccompAction"⟩

/-- The architectures. -/
inductive SeccompArch
  | x86_64
  | aarch64
  | x86
  | x32
deriving DecidableEq, Repr

/-- `arch.value`. -/
def SeccompArch.value : SeccompArch → String
  | x86_64 => "SCMP_ARCH_X86_64"
  | aarch64 => "SCMP_ARCH_AARCH64"
  | x86 => "SCMP_ARCH_X86"
  | x32 => "SCMP_ARCH_X32"

/-- `BLOCKLIST_SYSCALLS`: never to be whitelisted. -/
def blocklistSyscalls : List String := [
  "ptrace", "process_vm_readv", "process_vm_writev",
  "userfaultfd",
  "mount", "umount", "umount2", "pivot_root",
  "kexec_load", "kexec_file_load",
  "reboot", "sethostname", "setdomainname",
  "init_module", "finit_module", "delete_module",
  "keyctl", "add_key", "request_key",
  "capset", "capget",
  "unshare", "setns",
  "bpf", "perf_event_open",
  "iopl", "ioperm",
  "syslog", "acct",
  "personality",
  "io_uring_setup", "io_uring_enter", "io_uring_register",
  "landlock_create_ruleset", "landlock_add_rule", "landlock_restrict_self",
  "restart_syscall",
  "nfsservctl",
  "_sysctl",
  "lookup_dcookie",
  "vmsplice"]

/-- `HARDEN_KILL_SYSCALLS`: to be killed when hardening a base profile. -/
def hardenKillSyscalls : List String := [
  "init_module", "finit_module", "delete_module",
  "ptrace", "process_vm_readv", "process_vm_writev",
  "keyctl", "request_key", "add_key",
  "bpf",
  "perf_event_open",
  "reboot",
  "mount", "mount_setattr", "move_mount", "umount2",
  "pivot_root", "open_tree", "fspick", "fsopen", "fsconfig", "fsmount",
  "swapon", "swapoff",
  "kexec_load", "kexec_file_load"]

/-- The syscalls that `allow_network` adds. -/
def networkSyscalls : List String := [
  "socket", "connect", "sendto", "recvfrom",
  "recvmsg", "sendmsg", "shutdown",
  "getsockname", "getpeername",
  "bind", "listen", "accept", "accept4",
  "setsockopt", "getsockopt"]

/-- A rule of a profile. -/
structure SeccompRule where
  names : List String
  action : String
  args : PyVal := .list []
  comment : Option String := none
  errnoRet : Option ℤ := none
  includes : PyVal := .dict []
  excludes : PyVal := .dict []

/-- A profile as a dictionary; `other` are its other keys. -/
structure SeccompDict where
  defaultAction : String
  syscalls : List SeccompRule
  other : List (String × PyVal)

/-- What is stored for a syscall that is blocked explicitly. -/
structure BlockRule where
  action : String
  comment : String
  errnoRet : Option ℤ

/-- A profile; one that hardens a base profile keeps it. -/
structure SeccompProfile where
  defaultAction : SeccompAction
  auditMode : Bool
  /-- A set: no syscall is listed twice. -/
  allowedSyscalls : List String
  blockedSpecific : PyDict String BlockRule
  architectures : List SeccompArch
  baseProfile : Option SeccompDict

namespace SeccompProfile

/-- A profile from scratch. -/
def new (defaultAction : SeccompAction) (architectures : Option (List SeccompArch))
    (auditMode : Bool) : SeccompProfile where
  defaultAction := defaultAction
  auditMode := auditMode
  allowedSyscalls := []
  blockedSpecific := PyDict.empty
  architectures :=
    match architectures with
    | none | some [] => [.x86_64, .aarch64]
    | some archs => archs
  baseProfile := none

/-- A profile that hardens Podman's default one: what is read from its file, if
    this exists. -/
def fromPodmanDefault (profileData : Option SeccompDict) : Except PyErr SeccompProfile :=
  match profileData with
  | none => .error ⟨.osError,
      "Podman default seccomp profile not found at /usr/share/containers/seccomp.json. " ++
      "Ensure Podman is installed, or use from_scratch() mode."⟩
  | some profileData => do
    let defaultAction ← SeccompAction.ofValue profileData.defaultAction
    return { new defaultAction none false with baseProfile := some profileData }

/-- Adding syscalls to the allowlist, but for the ones on the blocklist. -/
def addSyscalls (p : SeccompProfile) (syscalls : List String) : SeccompProfile :=
  syscalls.foldl (fun p syscall =>
    if syscall ∈ blocklistSyscalls then p
    else { p with allowedSyscalls := p.allowedSyscalls.insert syscall }) p

/-- Explicitly blocking a syscall. -/
def blockSyscall (p : SeccompProfile) (syscall : String) (errno : ℤ) (action : String) :
    SeccompProfile :=
  let rule : BlockRule := {
    action := action
    comment := s!"Blocked by VibeShield: {syscall}"
    errnoRet := if action = "SCMP_ACT_ERRNO" then some errno else none }
  { p with blockedSpecific := p.blockedSpecific.set syscall rule }

/-- Enabling network-related syscalls. -/
def allowNetwork (p : SeccompProfile) : SeccompProfile := p.addSyscalls networkSyscalls

/-! ## The dictionary -/

/-- `sorted(syscalls)`. -/
def sorted (syscalls : List String) : List String := syscalls.insertionSort (· ≤ ·)

/-- The rules of a profile from scratch; `order` lists the blocklist. -/
def defaultDenyRules (p : SeccompProfile) (order : List String) : List SeccompRule :=
  (order.map fun syscall => {
    names := [syscall]
    action := "SCMP_ACT_KILL"
    comment := some s!"Always-blocked: {syscall}" }) ++
  (p.blockedSpecific.items.map fun (syscall, rule) => {
    names := [syscall]
    action := rule.action
    comment := some rule.comment
    errnoRet := rule.errnoRet }) ++
  (((sorted (p.allowedSyscalls.filter (· ∉ blocklistSyscalls))).filter
    (· ∉ p.blockedSpecific.keys)).map fun syscall => {
      names := [syscall]
      action := if p.auditMode then "SCMP_ACT_LOG" else "SCMP_ACT_ALLOW" })

/-- The default-deny profile from scratch. -/
def toDictDefaultDeny (p : SeccompProfile) (order : List String) : SeccompDict where
  defaultAction := if p.auditMode then "SCMP_ACT_LOG" else p.defaultAction.value
  syscalls := p.defaultDenyRules order
  other := [("defaultErrnoRet", .int 1),
    ("architectures", .list (p.architectures.map fun a => .str a.value))]

/-- The syscalls to kill when hardening. -/
def killNames (p : SeccompProfile) : List String :=
  p.blockedSpecific.items.foldl (fun names (syscall, rule) =>
    if rule.action = "SCMP_ACT_KILL" then names.insert syscall else names) hardenKillSyscalls

/-- The rules for the syscalls that are blocked with an error number. -/
def errnoRules (p : SeccompProfile) : List SeccompRule :=
  (p.blockedSpecific.items.filter fun (_, rule) => rule.action = "SCMP_ACT_ERRNO").map
    fun (syscall, rule) => {
      names := [syscall]
      action := "SCMP_ACT_ERRNO"
      comment := some rule.comment
      errnoRet := some (rule.errnoRet.getD 1) }

/-- The base profile with rules inserted at its front. -/
def toDictHarden (p : SeccompProfile) (base : SeccompDict) : SeccompDict :=
  let killRule : SeccompRule := {
    names := sorted p.killNames
    action := "SCMP_ACT_KILL"
    comment := some "VibeShield: dangerous syscalls blocked" }
  { base with
    syscalls := p.errnoRules.foldl (fun syscalls rule => syscalls.insertIdx 1 rule)
      (base.syscalls.insertIdx 0 killRule) }

/-- The profile as a dictionary. -/
def toDict (p : SeccompProfile) (order : List String) : SeccompDict :=
  match p.baseProfile with
  | some base => p.toDictHarden base
  | none => p.toDictDefaultDeny order

/-- Saving the profile to a file in the base directory; `writeFile` makes the
    directory of a file and writes a dictionary to it. -/
def save (p : SeccompProfile) (order : List String) (os : Os)
    (writeFile : String → SeccompDict → Except PyErr Unit) (path baseDir : String) :
    Except PyErr String := do
  let validatedPath ← validatePath os baseDir path true
  writeFile validatedPath (p.toDict order)
  return validatedPath

end SeccompProfile

/-! ## Building a profile -/

/-- The operations on a profile. -/
inductive SeccompOp
  | addSyscalls (syscalls : List String)
  | allowNetwork
  | blockSyscall (syscall : String) (errno : ℤ) (action : String)

/-- The profile after an operation. -/
def SeccompProfile.apply (p : SeccompProfile) : SeccompOp → SeccompProfile
  | .addSyscalls syscalls => p.addSyscalls syscalls
  | .allowNetwork => p.allowNetwork
  | .blockSyscall syscall errno action => p.blockSyscall syscall errno action

/-- The profile after a list of operations. -/
def SeccompProfile.build (p : SeccompProfile) (ops : List SeccompOp) : SeccompProfile :=
  ops.foldl SeccompProfile.apply p

/-! ## What a profile does -/

/-- The action that rules have for a syscall: the one of the first rule that names
    it, else the default one. -/
def firstAction (rules : List SeccompRule) (defaultAction syscall : String) : String :=
  match rules.find? fun rule => syscall ∈ rule.names with
  | some rule => rule.action
  | none => defaultAction

/-- The action of a profile for a syscall. -/
def SeccompDict.effectiveAction (d : SeccompDict) (syscall : String) : String :=
  firstAction d.syscalls d.defaultAction syscall

/-- The actions that let a syscall through. -/
def Allowing (action : String) : Prop := action = "SCMP_ACT_ALLOW" ∨ action = "SCMP_ACT_LOG"

instance (action : String) : Decidable (Allowing action) :=
  inferInstanceAs (Decidable (_ ∨ _))

end VibeShield
