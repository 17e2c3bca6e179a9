import VibeShield.Security.Exfil.Patterns

/-!
# What prompt injections look like

The patterns of the injection detector, with the descriptions of what they find: those that make
a text malicious by themselves (`maliciousPatterns`), those that make it suspicious
(`suspiciousPatterns`), and signs that something is hidden in it (`obfuscationPatterns`). The
first two are compiled with `DOTALL`.
-/

namespace VibeShield.PromptInjectionDetector

open Regex
open ExfiltrationDetector (oneOf noneOf space hex lower digit)

/-! ## Parts of patterns -/

/-- `.`, with `DOTALL`. -/
def anyChar : Regex := char fun _ => true

/-- `\s+`. -/
def gap : Regex := atLeast 1 space

/-- `\s*`. -/
def gaps : Regex := star space

/-- One of some words, with `(?i)`. -/
def word : List String → Regex
  | [] => char fun _ => false
  | w :: ws => alts (ilit w) (ws.map ilit)

/-- Parts with white space between them. -/
def phrase (rs : List Regex) : Regex := cat (rs.intersperse gap)

/-- One of some words and the white space after it, which may both be left out. -/
def maybe (ws : List String) : Regex := opt (cat [word ws, gap])

/-- A Cyrillic letter with `(?i)`: its capital is 32 before it, and some letters have other
    forms. -/
def ignoreCaseCyrillic (c d : Char) : Bool :=
  d = c || d.toNat + 32 = c.toNat ||
    [('в', 0x1c80), ('д', 0x1c81), ('о', 0x1c82), ('с', 0x1c83), ('т', 0x1c84), ('т', 0x1c85)].any
      fun p => p.1 = c && d.toNat = p.2

/-- One of some Cyrillic words, with `(?i)`. -/
def cyrillic (w : String) (ws : List String) : Regex :=
  let word (w : String) := cat (w.toList.map fun c => char (ignoreCaseCyrillic c))
  alts (word w) (ws.map word)

/-- One of some words in a script without cases. -/
def hanzi (w : String) (ws : List String) : Regex := alts (lit w) (ws.map lit)

/-- `\$?\d+(k|,?\d{3})?`. -/
def amount (u : Unicode) : Regex :=
  cat [opt (lit "$"), atLeast 1 (digit u),
    opt (alts (ilit "k") [cat [opt (lit ","), exactly 3 (digit u)]])]

/-! ## Malicious texts -/

variable (u : Unicode)

/-- `MALICIOUS_PATTERNS`. -/
def maliciousPatterns : List (Regex × String) := [
  -- Overriding instructions
  (phrase [ilit "ignore", cat [maybe ["all"], word ["previous", "above", "prior"]],
    word ["instructions", "prompts", "rules", "system"]], "Instruction override attempt"),
  (phrase [ilit "forget", word ["everything", "all", "your"],
    word ["instructions", "training", "rules"]], "Memory/training override attempt"),
  (phrase [ilit "disregard", word ["your", "the", "all"],
    word ["instructions", "rules", "guidelines", "prompt"]], "Instruction disregard attempt"),
  (cat [phrase [ilit "you", ilit "are", ilit "now", word ["a", "an", "the"]], gap],
    "Role hijacking attempt"),
  (cat [phrase [ilit "new", ilit "instruction"], opt (ilit "s"), gaps, oneOf ":."],
    "New instruction injection"),
  (cat [ilit "system", gaps, lit ":", gaps], "System prompt injection"),
  (cat [ilit "human", gaps, lit ":", gaps], "Human/assistant role confusion"),
  (cat [ilit "assistant", gaps, lit ":", gaps], "Assistant role injection"),
  (cat [word ["okay", "ok"], gaps, word ["now", "from now on"], gaps,
    alts (phrase [ilit "i", ilit "want"]) [ilit "follow", ilit "ignore"], space],
    "Behavior change directive"),
  (phrase [ilit "let", ilit "me", word ["give", "provide", "set", "establish"],
    cat [maybe ["you", "your"], word ["new", "updated", "fresh"]],
    word ["instructions", "rules", "guidelines", "directives"]],
    "Instruction replacement attempt"),
  -- Exfiltration
  (phrase [word ["send", "output", "print", "reveal", "show", "dump", "display", "exfiltrate",
      "leak", "copy"], word ["your", "the", "all"], cat [maybe ["system"], ilit "prompt"]],
    "System prompt exfiltration attempt"),
  (phrase [word ["repeat", "echo", "output"], word ["everything", "all", "your"],
    word ["above", "before", "previous"]], "Context exfiltration attempt"),
  (cat [ilit "http", opt (ilit "s"), lit "://", atLeast 1 (char fun c => !isPySpace c),
    alts (lit "你的系统") [cat [ilit "system", opt anyChar, ilit "prompt"], ilit "instructions",
      ilit "system_prompt"]], "External exfiltration URL attempt"),
  (cat [phrase [word ["upload", "post", "send"], word ["the", "this", "my"],
    word ["prompt", "instructions", "data"], ilit "to", ilit "http"], opt (ilit "s"), lit "://"],
    "Data upload exfiltration"),
  (cat [phrase [word ["CC", "Bcc", "bcc", "forward", "email", "mail"],
    word ["me", "this", "my", "the"], word ["prompt", "output", "result", "data"], ilit "to"],
    gap], "Email exfiltration attempt"),
  (cat [maybe ["i"], phrase [word ["need", "want", "require"], ilit "you", ilit "to", ilit "send",
    word ["the", "this", "all"], word ["output", "result", "data", "code"], ilit "to",
    ilit "http"], opt (ilit "s"), lit "://"], "Result exfiltration request"),
  -- Jailbreaks
  (cat [alts (ilit "jailbreak") [cat [ilit "jail", opt anyChar, ilit "break"],
    phrase [ilit "dan", ilit "mode"], phrase [ilit "developer", ilit "mode"]], boundary],
    "Known jailbreak technique"),
  (cat [boundary, ilit "DAN", boundary, star anyChar, boundary, ilit "mode", boundary],
    "DAN jailbreak pattern"),
  (phrase [ilit "pretend", ilit "you", cat [maybe ["have"], maybe ["no"],
    word ["rules", "restrictions", "limits", "filter", "boundaries", "guardrails"]]],
    "Restriction removal attempt"),
  (phrase [ilit "you", alts (ilit "can") [ilit "may", phrase [ilit "are", ilit "allowed",
      ilit "to"]], word ["ignore", "bypass", "skip", "override"],
    cat [maybe ["your"], alts (ilit "safety") [ilit "security",
      cat [ilit "content", opt anyChar, ilit "policy"], ilit "guidelines"]]],
    "Safety override attempt"),
  (cat [maybe ["no"], alts (ilit "filter") [ilit "limits", ilit "boundaries", ilit "censorship",
      ilit "restrictions", cat [ilit "content", opt anyChar, ilit "policy"]], gaps,
    opt (word ["are", "is"]), gaps, maybe ["not"],
    word ["needed", "required", "relevant", "necessary"]], "Safety filter bypass attempt"),
  (phrase [alts (ilit "hypothetical") [ilit "fictional",
      cat [ilit "role", opt anyChar, ilit "play"], ilit "simulation"],
    word ["scenario", "setting"], ilit "where", word ["you", "i"], word ["can", "have", "are"],
    alts (ilit "ignore") [ilit "bypass", phrase [ilit "no", ilit "rules"]]],
    "Hypothetical jailbreak attempt"),
  (cat [maybe ["my"], phrase [word ["grandma", "mother", "father", "parent", "aunt", "uncle"],
    cat [opt (cat [phrase [ilit "used", ilit "to"], gap]), word ["read", "tell", "say", "show"]],
    ilit "me"], gap], "Grandma exploit attempt"),
  -- Descriptions of tools
  (cat [phrase [ilit "you", ilit "have", cat [opt (cat [phrase [ilit "access", ilit "to"], gap]),
      maybe ["a"], maybe ["new"], word ["tool", "function", "command", "plugin"]],
    ilit "called"], gap], "Fake tool injection attempt"),
  (phrase [ilit "here", word ["are", "is"], word ["your", "the"],
    word ["updated", "new", "correct"], word ["tool", "function", "plugin", "api"],
    word ["definition", "spec", "description", "schema"]], "Tool definition override"),
  (cat [phrase [ilit "function", atLeast 1 (char u.isWord)], gaps, lit "(", gaps,
    star (noneOf ")"), lit ")", gaps, lit "\x7b"], "Function definition injection"),
  (cat [lit "\x7b", star anyChar, ilit "\"name\":", gaps, lit "\"",
    atLeast 1 (char (ignoreCase (orOneOf Char.isAlpha "_"))), lit "\"", star anyChar,
    ilit "\"description\":", star anyChar, lit "\x7d"], "JSON tool definition injection"),
  -- Splitting
  (cat [alts (ilit "first") [cat [ilit "step", gaps, lit "1"], cat [ilit "part", gaps, lit "1"]],
    gaps, opt (lit ":"), star anyChar, boundary, word ["ignore", "disregard", "forget"], boundary,
    star anyChar, alts (cat [ilit "step", gaps, lit "2"]) [ilit "second", ilit "then",
      ilit "next", phrase [ilit "after", ilit "that"]]],
    "Step-by-step injection (payload splitting)"),
  (cat [hanzi "第一部分" ["第一步"], star anyChar, hanzi "忽略" ["忘记", "不要遵守"], star anyChar,
    hanzi "第二部分" ["第二步", "接下来"]], "Chinese payload splitting"),
  (cat [phrase [word ["wait", "pause", "break"], word ["for", "until", "before", "after"]],
    star anyChar, phrase [alts (phrase [ilit "and", ilit "then"]) [ilit "then", ilit "next"],
      word ["ignore", "disregard", "forget"]]], "Chained instruction injection"),
  (cat [maybe ["i"], phrase [ilit "will", word ["give", "pay", "offer", "tip", "reward"],
    ilit "you", amount u], gaps, word ["if", "when", "once", "after"]],
    "Bribery/reward manipulation"),
  (cat [opt (cat [phrase [ilit "this", ilit "is"], gap]), maybe ["a"],
    phrase [word ["test", "challenge", "experiment", "evaluation"],
      alts (ilit "of") [ilit "for", phrase [ilit "to", ilit "test"]], word ["your", "AI"],
      word ["safety", "security", "boundaries", "rules", "limits", "filtering"]]],
    "Safety evaluation pretext"),
  -- Other languages
  (cat [lit "忽略", gaps, opt (cat [lit "所有", gaps]), hanzi "之前" ["以上", "先前"], gaps,
    opt (cat [lit "的", gaps]), hanzi "指令" ["指示", "规则", "提示"]],
    "Chinese instruction override"),
  (cat [lit "忘记", gaps, opt (cat [lit "你", gaps, lit "的", gaps]), hanzi "所有" ["一切"], gaps,
    hanzi "指令" ["训练", "规则"]], "Chinese memory override"),
  (cat [lit "你", gaps, lit "现在", gaps, lit "是", gaps], "Chinese role hijacking"),
  (cat [hanzi "请" ["给我", "帮我把"], gaps,
    hanzi "输出" ["发送", "打印", "显示", "复制", "泄露"], gaps,
    opt (cat [lit "你", gaps, lit "的", gaps]), opt (cat [lit "系统", gaps]),
    alts (lit "提示词") [ilit "prompt", lit "指令", lit "规则"]], "Chinese prompt exfiltration"),
  (phrase [cyrillic "игнорируй" ["забудь", "отмени"], cyrillic "все" ["предыдущие", "свои"],
    cyrillic "инструкции" ["правила", "указания"]], "Russian instruction override"),
  (phrase [word ["ignora", "olvida", "descarta"], word ["todas", "tus", "las"],
    word ["instrucciones", "reglas", "indicaciones"]], "Spanish instruction override"),
  -- Manipulation
  (phrase [word ["answer", "respond", "reply"], word ["only", "just", "solely"],
    word ["with", "in"], word ["base64", "hex", "binary", "rot13", "caesar", "cipher", "morse",
      "leetspeak", "leet", "l33t"]], "Encoded output request"),
  (cat [phrase [alts (phrase [ilit "do", ilit "not"]) [cat [ilit "don", opt (lit "'"), ilit "t"],
      ilit "never"], word ["tell", "mention", "reveal", "disclose", "share"],
    alts (ilit "anyone") [ilit "anybody", phrase [ilit "the", ilit "user"], ilit "them"],
    word ["that", "about"]], gap], "Information hiding directive"),
  (cat [alts (ilit "this") [phrase [ilit "the", ilit "following"]], gaps, word ["is", "are"], gaps,
    phrase [word ["my", "new", "updated"], word ["system", "environment", "context", "session"],
      word ["prompt", "instructions", "setup", "configuration"]]],
    "Context manipulation attempt"),
  (cat [maybe ["i"], phrase [alts (ilit "am") [phrase [ilit "will", ilit "be"]],
    alts (ilit "your") [phrase [ilit "acting", ilit "as"]],
    word ["new", "replacement", "alternate", "backup"],
    word ["admin", "administrator", "creator", "developer", "supervisor", "overseer"]]],
    "Authority impersonation"),
  (phrase [word ["override", "overwrite", "replace"], word ["your", "the"],
    word ["entire", "full", "complete"], word ["system", "context", "session", "state"]],
    "System state override attempt")]

/-! ## Suspicious texts -/

/-- A tag of an XML text, after its `<` or `</`. -/
def tag : Regex := cat [word ["system", "instruction", "override", "prompt", "role"], lit ">"]

/-- `[^{}]*?`. -/
def noBraces : Regex := star (noneOf "\x7b\x7d")

/-- `SUSPICIOUS_PATTERNS`. -/
def suspiciousPatterns : List (Regex × String) := [
  -- Probing for information
  (phrase [ilit "what", ilit "are", ilit "your", word ["initial", "original", "system"],
    word ["instructions", "prompt"]], "Probing for system prompt"),
  (phrase [word ["translate", "convert", "encode"], word ["the", "your", "this"],
    word ["prompt", "instructions"]], "Encoded exfiltration probe"),
  (phrase [ilit "what", word ["rules", "instructions", "guidelines", "policies", "restrictions"],
    ilit "do", ilit "you", word ["have", "follow", "obey"]], "Rules enumeration probe"),
  (phrase [word ["list", "show", "tell", "enumerate", "reveal", "describe"], word ["your", "the"],
    word ["safety", "security", "content", "moderation"],
    word ["rules", "guidelines", "policies", "filters", "mechanisms"]],
    "Safety mechanism probing"),
  (phrase [alts (phrase [ilit "are", ilit "you"]) [phrase [ilit "do", ilit "you", ilit "have"]],
    word ["bound", "limited", "restrict", "constrain", "restrain", "filter", "censor"]],
    "Capability probing"),
  -- Assuming a role
  (phrase [ilit "act", ilit "as", word ["if", "though"], ilit "you", word ["are", "were"]],
    "Role assumption attempt"),
  (phrase [word ["above", "below", "between"], word ["text", "instructions", "content"],
    ilit "is", word ["confidential", "secret", "hidden"]], "Hidden instruction probe"),
  -- Structures
  (cat [lit "\x7b", noBraces, word ["system", "instruction", "override", "prompt", "role"],
    noBraces, lit "\x7d"], "Structured injection attempt"),
  (cat [lit "<!--", noBraces, word ["system", "instruction"], noBraces, lit "-->"],
    "Comment-based injection attempt"),
  (cat [lit "```", word ["system", "instruction", "prompt", "role", "override"], noBraces,
    lit "```"], "Code block injection attempt"),
  (cat [lit "/*", noBraces, word ["system", "instruction", "override"], noBraces, lit "*/"],
    "Comment block injection attempt"),
  (cat [lit "<", tag, noBraces, lit "</", tag], "XML tag injection attempt"),
  -- Changing the context
  (cat [phrase [word ["this", "that"], ilit "is",
    alts (ilit "not") [phrase [ilit "no", ilit "longer"]],
    cat [maybe ["a"], word ["test", "simulation", "demo", "example", "hypothetical"]]]],
    "Context frame manipulation"),
  (cat [maybe ["from"], alts (phrase [ilit "now", ilit "on"]) [ilit "henceforth",
      phrase [ilit "going", ilit "forward"]], gaps, opt (oneOf ",:"), gaps, maybe ["you"],
    alts (ilit "will") [ilit "must", ilit "should", phrase [ilit "need", ilit "to"]], gap],
    "Future behavior directive"),
  (cat [alts (ilit "important") [ilit "urgent", ilit "critical",
      cat [ilit "high", anyChar, ilit "priority"]], gaps, oneOf ":!", gaps,
    alts (ilit "read") [ilit "listen", phrase [ilit "pay", ilit "attention"], ilit "note"]],
    "Urgency-based manipulation"),
  -- Technical details
  (cat [maybe ["what"], phrase [ilit "model", alts (phrase [ilit "are", ilit "you"])
    [ilit "version", ilit "name", ilit "number"]]], "Model identification probe"),
  (cat [alts (cat [ilit "who", gap]) [phrase [ilit "which", ilit "company"],
      phrase [ilit "who", ilit "created"], phrase [ilit "who", ilit "made"],
      phrase [ilit "who", ilit "built"], phrase [ilit "what", ilit "company"]], gap,
    phrase [word ["created", "made", "built", "developed", "trained"], ilit "you"]],
    "Creator identification probe"),
  (cat [alts (cat [phrase [ilit "where", ilit "are", ilit "you"], gap])
      [phrase [ilit "on", ilit "what", word ["server", "infrastructure", "platform"]]], gap,
    word ["running", "hosted", "deployed"]], "Infrastructure probe"),
  -- Formatting
  (cat [word ["\\system", "\\instruction", "\\override", "\\prompt", "\\role"], gaps,
    oneOf ":="], "Escape sequence injection"),
  (alts (ilit "%00") [ilit "null", ilit "%0d%0a", ilit "%0a",
    cat [ilit "%0d", star (lit "."), word ["system", "instruction", "prompt"]]],
    "URL-encoded injection probe"),
  (phrase [word ["BEGIN", "START", "INJECT", "OVERRIDE"],
    word ["SYSTEM", "INSTRUCTION", "PROMPT", "CONTEXT"], word ["BLOCK", "SECTION"]],
    "Explicit injection marker"),
  -- Examples
  (cat [phrase [ilit "here", word ["are", "is"]], gap, atLeast 1 (digit u), gaps,
    opt (cat [ilit "example", opt (ilit "s"), gap]), maybe ["of"],
    phrase [word ["good", "correct", "proper", "acceptable", "valid"],
      word ["answers", "responses", "outputs", "behaviors"]]], "Few-shot behavior manipulation"),
  (phrase [word ["follow", "mimic", "copy", "replicate", "emulate", "adopt"],
    cat [maybe ["the"], word ["format", "pattern", "style", "behavior", "approach", "tone"]],
    word ["above", "below", "from", "of", "in"]], "Style/behavior mimicry directive"),
  (cat [phrase [word ["user", "human"], word ["said", "wrote", "asked", "typed"]],
    opt (lit ":"), gaps, word ["ignore", "forget", "override", "disregard"]],
    "Quoted override injection"),
  -- Output
  (phrase [ilit "output", alts (ilit "it") [phrase [ilit "the", ilit "result"],
      ilit "everything", ilit "all"], word ["as", "in", "using"],
    word ["JSON", "XML", "YAML", "CSV", "HTML", "markdown"],
    word ["without", "with", "only", "before", "after"]], "Output format manipulation"),
  (cat [phrase [word ["wrap", "surround", "enclose", "embed"], word ["your", "the"],
    word ["response", "output", "answer"], word ["in", "with", "inside"]], gap],
    "Output enclosure attempt"),
  (phrase [word ["start", "begin", "preface", "prefix"], word ["every", "each", "all"],
    word ["response", "output", "answer"], word ["with", "by"]], "Output prefix injection")]

/-! ## Obfuscation -/

/-- Whether the code of a character is in one of some ranges. -/
def inRanges (ranges : List (ℕ × ℕ)) (c : Char) : Bool :=
  ranges.any fun r => r.1 ≤ c.toNat && c.toNat ≤ r.2

/-- The characters that are not visible. -/
def isInvisible (c : Char) : Bool :=
  c.toNat ∈ [0x200b, 0x200c, 0x200d, 0xfeff, 0xad, 0x2060, 0x2061, 0x2062, 0x2063, 0x2064, 0x2066,
    0x2067, 0x2068, 0x2069]

/-- A number up to 255 in decimal: `(?:25[0-5]|2[0-4]\d|[01]?\d\d?)`. -/
def octet : Regex :=
  alts (cat [lit "25", char (inRanges [(0x30, 0x35)])])
    [cat [lit "2", char (inRanges [(0x30, 0x34)]), digit u],
      cat [opt (oneOf "01"), digit u, opt (digit u)]]

/-- `OBFUSCATION_PATTERNS`. -/
def obfuscationPatterns : List (Regex × String) := [
  (char (inRanges [(0, 8), (0xb, 0xb), (0xc, 0xc), (0xe, 0x1f)]), "Control characters"),
  (char isInvisible, "Zero-width/invisible characters"),
  (cat [atLeast 1 lower, ilit "\\u", atLeast 4 hex], "Unicode escape sequences"),
  (cat [lit "%", exactly 2 hex, lit "%", exactly 2 hex, lit "%", exactly 2 hex],
    "URL-encoded characters"),
  (cat [ilit "&#", opt (ilit "x"), atLeast 1 hex, lit ";"], "HTML entity encoding"),
  (cat [ilit "\\x", hex, hex], "Hex escape sequences"),
  (atLeast 4 (char fun c => !inRanges [(0x20, 0x7e), (0xa0, 0x24f), (0x370, 0x3ff),
    (0x400, 0x4ff), (0x4e00, 0x9fff), (0x3040, 0x309f), (0x30a0, 0x30ff), (0xac00, 0xd7af),
    (0xff00, 0xffef)] c), "Rare/obscure unicode block"),
  (cat [exactly 3 (cat [octet u, lit "."]), octet u], "IP address in prompt")]

end VibeShield.PromptInjectionDetector
