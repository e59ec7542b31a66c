import Mathlib.Data.List.Infix
import Mathlib.Data.List.TakeWhile
import PfsenseMcp.Python.Bytes

/-!
# Merging a stanza into a TOML file

`_merge_toml` of `security_client_config_write.py`: the tables of the server in the configuration of
a client are found by their header lines, removed up to the next table, and written anew. `tomllib`
is a parameter, which only says what text it reads.

## Main results

* `splitLines_replaced`: the lines of the new file;
* `keepsForeignLines_iff`: the merge keeps all lines that are not its own exactly if the removed
  tables have no comments and few enough empty lines.
-/

namespace Administration

open Python

namespace ClientConfig

/-! ### Lines -/

/-- A line without its line feed. -/
abbrev Line := List Char

/-- `text.split("\n")`. -/
def splitLines : List Char → List Line
  | [] => [[]]
  | c :: cs =>
    if c = '\n' then [] :: splitLines cs
    else match splitLines cs with
      | [] => [[c]]
      | line :: lines => (c :: line) :: lines

/-- `"\n".join(lines)`. -/
def joinLines : List Line → List Char
  | [] => []
  | [line] => line
  | line :: lines => line ++ '\n' :: joinLines lines

/-- `character.isspace()`. -/
def isSpace (c : Char) : Bool :=
  (9 ≤ c.toNat && c.toNat ≤ 13) || (28 ≤ c.toNat && c.toNat ≤ 32) || c.toNat == 0x85 ||
    c.toNat == 0xa0 || c.toNat == 0x1680 || (0x2000 ≤ c.toNat && c.toNat ≤ 0x200a) ||
    c.toNat == 0x2028 || c.toNat == 0x2029 || c.toNat == 0x202f || c.toNat == 0x205f ||
    c.toNat == 0x3000

/-- `line.lstrip()`. -/
def lstrip (line : Line) : Line := line.dropWhile isSpace

/-- `line.strip()`. -/
def strip (line : Line) : Line := ((lstrip line).reverse.dropWhile isSpace).reverse

theorem splitLines_ne_nil (cs : List Char) : splitLines cs ≠ [] := by
  cases cs with
  | nil => exact List.cons_ne_nil _ _
  | cons c cs =>
    rw [splitLines]
    split_ifs
    · exact List.cons_ne_nil _ _
    · split <;> exact List.cons_ne_nil _ _

theorem splitLines_cons {c : Char} (h : c ≠ '\n') {cs : List Char} {line : Line}
    {lines : List Line} (hcs : splitLines cs = line :: lines) :
    splitLines (c :: cs) = (c :: line) :: lines := by
  rw [splitLines, if_neg h, hcs]

/-- A line feed ends a line. -/
theorem splitLines_append (cs ds : List Char) :
    splitLines (cs ++ '\n' :: ds) = splitLines cs ++ splitLines ds := by
  induction cs with
  | nil => simp [splitLines]
  | cons c cs ih =>
    by_cases hc : c = '\n'
    · rw [hc, List.cons_append, splitLines, if_pos rfl, splitLines, if_pos rfl, ih]
      rfl
    · obtain ⟨line, lines, hlines⟩ := List.exists_cons_of_ne_nil (splitLines_ne_nil cs)
      rw [splitLines_cons hc hlines, List.cons_append,
        @splitLines_cons _ hc _ line (lines ++ splitLines ds) (by rw [ih, hlines]; rfl)]
      rfl

theorem splitLines_of_not_mem {line : Line} (h : '\n' ∉ line) : splitLines line = [line] := by
  induction line with
  | nil => rfl
  | cons c line ih =>
    rw [List.mem_cons, not_or] at h
    rw [splitLines_cons (Ne.symm h.1) (ih h.2)]

/-- A joined text has the lines of what was joined. -/
theorem splitLines_joinLines {lines : List Line} (h : lines ≠ []) :
    splitLines (joinLines lines) = lines.flatMap splitLines := by
  induction lines with
  | nil => exact absurd rfl h
  | cons line lines ih =>
    cases lines with
    | nil => rw [joinLines, List.flatMap_cons, List.flatMap_nil, List.append_nil]
    | cons next lines =>
      rw [joinLines, splitLines_append, ih (List.cons_ne_nil _ _), ← List.flatMap_cons]
      exact List.cons_ne_nil _ _

/-- No line has a line feed in it. -/
theorem not_mem_of_mem_splitLines {cs : List Char} {line : Line} (h : line ∈ splitLines cs) :
    '\n' ∉ line := by
  induction cs generalizing line with
  | nil =>
    rw [List.mem_singleton.mp h]
    exact List.not_mem_nil
  | cons c cs ih =>
    by_cases hc : c = '\n'
    · rw [splitLines, if_pos hc, List.mem_cons] at h
      rcases h with rfl | h
      · exact List.not_mem_nil
      · exact ih h
    · obtain ⟨first, lines, hlines⟩ := List.exists_cons_of_ne_nil (splitLines_ne_nil cs)
      rw [splitLines_cons hc hlines, List.mem_cons] at h
      rcases h with rfl | h
      · rw [List.mem_cons, not_or]
        exact ⟨Ne.symm hc, ih (by rw [hlines]; exact List.mem_cons_self)⟩
      · exact ih (by rw [hlines]; exact List.mem_cons_of_mem _ h)

theorem flatMap_splitLines {lines : List Line} (h : ∀ line ∈ lines, '\n' ∉ line) :
    lines.flatMap splitLines = lines := by
  induction lines with
  | nil => rfl
  | cons line lines ih =>
    rw [List.flatMap_cons, splitLines_of_not_mem (h line List.mem_cons_self),
      ih fun l hl => h l (List.mem_cons_of_mem _ hl)]
    rfl

/-- The lines of a text, joined again. -/
theorem joinLines_splitLines (cs : List Char) : joinLines (splitLines cs) = cs := by
  induction cs with
  | nil => rfl
  | cons c cs ih =>
    obtain ⟨line, lines, hlines⟩ := List.exists_cons_of_ne_nil (splitLines_ne_nil cs)
    by_cases hc : c = '\n'
    · rw [splitLines, if_pos hc, hlines, joinLines, ← hlines, ih, hc]
      · rfl
      · exact List.cons_ne_nil _ _
    · rw [splitLines_cons hc hlines]
      rw [hlines] at ih
      cases lines with
      | nil => rw [joinLines] at ih ⊢; rw [ih]
      | cons next lines =>
        rw [joinLines] at ih ⊢
        · rw [← ih]; rfl
        · exact List.cons_ne_nil _ _
        · exact List.cons_ne_nil _ _

/-! ### The stanza -/

/-- `_toml_escape_string`. -/
def tomlEscapeString (value : List Char) : List Char :=
  value.flatMap fun c =>
    if c = '\\' then ['\\', '\\']
    else if c = '"' then ['\\', '"']
    else if c.toNat = 8 then ['\\', 'b']
    else if c = '\t' then ['\\', 't']
    else if c = '\n' then ['\\', 'n']
    else if c.toNat = 12 then ['\\', 'f']
    else if c = '\r' then ['\\', 'r']
    else if c.toNat < 32 ∨ c.toNat = 127 then
      ['\\', 'u', '0', '0', Bytes.hexDigit (c.toNat / 16), Bytes.hexDigit (c.toNat % 16)]
    else [c]

/-- The header of the table of the server. -/
def serverHeader : Line := "[mcp_servers.pfsense]".toList

/-- The header of the table of its environment. -/
def envHeader : Line := "[mcp_servers.pfsense.env]".toList

/-- A key and a string, as one line. -/
def assignment (key value : List Char) : Line :=
  key ++ " = \"".toList ++ tomlEscapeString value ++ ['"']

/-- `_toml_stanza_lines`. -/
def tomlStanzaLines (command : String) (envVars : List (String × String)) : List Line :=
  [serverHeader, assignment "command".toList command.toList, "required = true".toList, [],
    envHeader] ++ envVars.map fun f => assignment f.1.toList f.2.toList

/-! ### Finding and replacing the tables -/

/-- Whether a line starts a table. -/
def startsTable (line : Line) : Bool := (lstrip line).head? == some '['

/-- How many lines there are before the next table. -/
def bodyLength : List Line → ℕ
  | [] => 0
  | line :: lines => if startsTable line then 0 else bodyLength lines + 1

/-- The loop of `_find_table_span`, from the line with the given index. -/
def findTableSpanFrom (header : Line) : ℕ → List Line → Option (ℕ × ℕ)
  | _, [] => none
  | index, line :: lines =>
    if strip line = header then some (index, index + 1 + bodyLength lines)
    else findTableSpanFrom header (index + 1) lines

/-- `_find_table_span`. -/
def findTableSpan (lines : List Line) (header : Line) : Option (ℕ × ℕ) :=
  findTableSpanFrom header 0 lines

/-- `del lines[start:end]`. -/
def removeSpan (span : ℕ × ℕ) (lines : List Line) : List Line :=
  lines.take span.1 ++ lines.drop span.2

/-- The spans that were found, by their start. -/
def sortedSpans : Option (ℕ × ℕ) → Option (ℕ × ℕ) → List (ℕ × ℕ)
  | some server, some env => if env.1 < server.1 then [env, server] else [server, env]
  | some server, none => [server]
  | none, some env => [env]
  | none, none => []

/-- The lines that follow the stanza, after an empty one if they go on at once. -/
def separated : List Line → List Line
  | [] => []
  | line :: lines => if strip line ≠ [] then [] :: line :: lines else line :: lines

/-- `text.endswith("\n")`. -/
def endsWithNewline (text : List Char) : Bool := text.getLast? == some '\n'

/-- The text that `_merge_toml` makes of an existing one. -/
def mergedText (text : List Char) (stanza : List Line) : List Char :=
  let lines := splitLines text
  match sortedSpans (findTableSpan lines serverHeader) (findTableSpan lines envHeader) with
  | [] =>
    let terminated := if endsWithNewline text then text else text ++ ['\n']
    let separated :=
      if strip terminated ≠ [] ∧ ¬(['\n', '\n'] <:+ terminated) then terminated ++ ['\n']
      else terminated
    separated ++ joinLines stanza ++ ['\n']
  | first :: spans =>
    let remaining := (first :: spans).foldr removeSpan lines
    let result := joinLines
      (remaining.take first.1 ++ stanza ++ separated (remaining.drop first.1))
    if endsWithNewline result then result else result ++ ['\n']

/-- What becomes of a call of `tomllib.loads`. -/
inductive TomlAnswer where
  /-- The text is read. -/
  | accepted
  /-- A `TOMLDecodeError` with its text. -/
  | refused (text : String)
  /-- Another exception. -/
  | raised
deriving DecidableEq

/-- What `_merge_toml` may raise. -/
inductive MergeError where
  /-- A `ClientConfigWriteError`. -/
  | refused (message : String)
  /-- Another exception. -/
  | raised
deriving DecidableEq

/-- `_merge_toml`. -/
def mergeToml (tomllibLoads : String → TomlAnswer) (existing : Option Bytes) (command : String)
    (envVars : List (String × String)) : Except MergeError Bytes :=
  let stanza := tomlStanzaLines command envVars
  match existing with
  | none => .ok (Bytes.encodeUtf8 (String.ofList (joinLines stanza ++ ['\n'])))
  | some existing =>
    match Bytes.decodeUtf8 existing with
    | none => .error (.refused
        "Existing Codex/ChatGPT config is not valid UTF-8 -- refusing to touch it")
    | some text =>
      match tomllibLoads text with
      | .refused e => .error (.refused
          ("Existing Codex/ChatGPT config is not valid TOML -- refusing to touch it: " ++ e))
      | .raised => .error .raised
      | .accepted =>
        .ok (Bytes.encodeUtf8 (String.ofList (mergedText text.toList stanza)))

/-! ### What is found -/

theorem exists_body (lines : List Line) : ∃ body rest, lines = body ++ rest ∧
    body.length = bodyLength lines ∧ (∀ line ∈ body, startsTable line = false) ∧
      ∀ line ∈ rest.head?, startsTable line = true := by
  induction lines with
  | nil => exact ⟨[], [], rfl, rfl, nofun, nofun⟩
  | cons line lines ih =>
    rw [bodyLength]
    by_cases h : startsTable line = true
    · rw [if_pos h]
      refine ⟨[], line :: lines, rfl, rfl, nofun, ?_⟩
      rintro _ ⟨⟩
      exact h
    · obtain ⟨body, rest, rfl, hlength, hbody, hrest⟩ := ih
      rw [if_neg h]
      refine ⟨line :: body, rest, rfl, by rw [List.length_cons, hlength], ?_, hrest⟩
      intro l hl
      rcases List.mem_cons.mp hl with rfl | hl
      · exact Bool.eq_false_iff.mpr h
      · exact hbody l hl

/-- A table that was found: the lines before it, its header line, its body and the lines after it. -/
structure Found (header : Line) (lines : List Line) (before : List Line) (head : Line)
    (body after : List Line) : Prop where
  lines_eq : lines = before ++ head :: body ++ after
  strip_head : strip head = header
  first : ∀ line ∈ before, strip line ≠ header
  body : ∀ line ∈ body, startsTable line = false
  after : ∀ line ∈ after.head?, startsTable line = true

theorem findTableSpanFrom_eq_some {header : Line} {span : ℕ × ℕ} : ∀ {lines : List Line} {index : ℕ},
    findTableSpanFrom header index lines = some span →
      ∃ before head body after, Found header lines before head body after ∧
        span = (index + before.length, index + before.length + 1 + body.length) := by
  intro lines
  induction lines with
  | nil => exact nofun
  | cons line lines ih =>
    intro index h
    rw [findTableSpanFrom] at h
    split_ifs at h with hline
    · cases h
      obtain ⟨body, rest, rfl, hlength, hbody, hrest⟩ := exists_body lines
      refine ⟨[], line, body, rest, ⟨rfl, hline, nofun, hbody, hrest⟩, ?_⟩
      rw [hlength]
      rfl
    · obtain ⟨before, head, body, after, ⟨rfl, hhead, hfirst, hbody, hafter⟩, rfl⟩ := ih h
      refine ⟨line :: before, head, body, after, ⟨rfl, hhead, ?_, hbody, hafter⟩, ?_⟩
      · intro l hl
        rcases List.mem_cons.mp hl with rfl | hl
        · exact hline
        · exact hfirst l hl
      · rw [List.length_cons]
        congr 1 <;> omega

theorem findTableSpan_eq_some {header : Line} {span : ℕ × ℕ} {lines : List Line}
    (h : findTableSpan lines header = some span) :
    ∃ before head body after, Found header lines before head body after ∧
      span = (before.length, before.length + 1 + body.length) := by
  obtain ⟨before, head, body, after, hfound, hspan⟩ := findTableSpanFrom_eq_some h
  rw [Nat.zero_add] at hspan
  exact ⟨before, head, body, after, hfound, hspan⟩

theorem findTableSpan_eq_none {header : Line} {lines : List Line}
    (h : findTableSpan lines header = none) : ∀ line ∈ lines, strip line ≠ header := by
  have hfrom : ∀ (lines : List Line) (index : ℕ), findTableSpanFrom header index lines = none →
      ∀ line ∈ lines, strip line ≠ header := by
    intro lines
    induction lines with
    | nil => exact fun _ _ => nofun
    | cons first lines ih =>
      intro index h line hline
      rw [findTableSpanFrom] at h
      split_ifs at h with hfirst
      rcases List.mem_cons.mp hline with rfl | hline
      · exact hfirst
      · exact ih _ h line hline
  exact hfrom lines 0 h

/-- What `strip` leaves is a beginning of what `lstrip` leaves. -/
theorem strip_prefix (line : Line) : strip line <+: lstrip line := by
  have h := List.dropWhile_suffix (l := (lstrip line).reverse) isSpace
  have hreverse := List.reverse_prefix.mpr h
  rwa [List.reverse_reverse] at hreverse

/-- A line that is a header but for white space starts a table. -/
theorem startsTable_of_strip {line : Line} {rest : List Char} (h : strip line = '[' :: rest) :
    startsTable line = true := by
  obtain ⟨t, ht⟩ := strip_prefix line
  rw [startsTable, ← ht, h]
  rfl

/-- A line with something in it but white space. -/
theorem strip_ne_nil_of_startsTable {line : Line} (h : startsTable line = true) :
    strip line ≠ [] := by
  intro hnil
  rw [strip, List.reverse_eq_nil_iff, List.dropWhile_eq_nil_iff] at hnil
  obtain ⟨rest, hrest⟩ : ∃ rest, lstrip line = '[' :: rest := by
    rw [startsTable, beq_iff_eq, List.head?_eq_some_iff] at h
    exact h
  have hspace := hnil '[' (by rw [hrest]; simp)
  exact absurd hspace (by decide)

/-- Of two tables that were found, the first ends before the second starts. -/
theorem Found.split {header header' : Line} {lines before before' : List Line} {head head' : Line}
    {body body' after after' : List Line} (h : Found header lines before head body after)
    (h' : Found header' lines before' head' body' after') (hstart : startsTable head' = true)
    (hlt : before.length < before'.length) :
    ∃ between, before' = before ++ head :: body ++ between ∧
      after = between ++ head' :: body' ++ after' := by
  have heq := h.lines_eq.symm.trans h'.lines_eq
  rw [List.append_assoc, List.append_assoc] at heq
  rcases List.append_eq_append_iff.mp heq with ⟨more, hbefore, hmore⟩ | ⟨more, hbefore, -⟩
  · cases more with
    | nil =>
      rw [List.append_nil] at hbefore
      rw [hbefore] at hlt
      exact absurd hlt (Nat.lt_irrefl _)
    | cons x more =>
      rw [List.cons_append, List.cons_append, List.cons.injEq] at hmore
      obtain ⟨rfl, hmore⟩ := hmore
      rcases List.append_eq_append_iff.mp hmore with ⟨between, rfl, hafter⟩ | ⟨inside, hbody, hafter⟩
      · refine ⟨between, ?_, ?_⟩
        · rw [hbefore, List.append_assoc, List.cons_append]
        · rw [hafter, List.append_assoc]
      · cases inside with
        | nil =>
          rw [List.nil_append] at hafter
          rw [List.append_nil] at hbody
          refine ⟨[], ?_, ?_⟩
          · rw [hbefore, ← hbody, List.append_nil]
          · rw [← hafter]
            rfl
        | cons y inside =>
          -- the second header would be in the body of the first table
          rw [List.cons_append, List.cons_append, List.cons.injEq] at hafter
          have hmem : head' ∈ body := by
            rw [hbody, ← hafter.1]
            exact List.mem_append_right _ List.mem_cons_self
          rw [h.body _ hmem] at hstart
          cases hstart
  · rw [hbefore, List.length_append] at hlt
    exact absurd hlt (by omega)

theorem startsTable_of_header {line : Line} (h : strip line = serverHeader ∨ strip line = envHeader) :
    startsTable line = true := by
  rcases h with h | h
  · exact @startsTable_of_strip _ "mcp_servers.pfsense]".toList h
  · exact @startsTable_of_strip _ "mcp_servers.pfsense.env]".toList h

/-- The two headers, in one order or the other. -/
def OwnHeaders (header other : Line) : Prop :=
  header = serverHeader ∧ other = envHeader ∨ header = envHeader ∧ other = serverHeader

/-- The tables of the server in a file: none of them, one, or two of them in some order. -/
inductive Tables (lines : List Line) : Prop
  | none (hspans : sortedSpans (findTableSpan lines serverHeader) (findTableSpan lines envHeader) = [])
      (hserver : ∀ line ∈ lines, strip line ≠ serverHeader)
      (henv : ∀ line ∈ lines, strip line ≠ envHeader)
  | one (header other : Line) (before : List Line) (head : Line) (body after : List Line)
      (hspans : sortedSpans (findTableSpan lines serverHeader) (findTableSpan lines envHeader) =
        [(before.length, before.length + 1 + body.length)])
      (hheaders : OwnHeaders header other) (hfound : Found header lines before head body after)
      (hother : ∀ line ∈ lines, strip line ≠ other)
  | two (header other : Line) (before : List Line) (head : Line) (body between : List Line)
      (head' : Line) (body' after : List Line)
      (hspans : sortedSpans (findTableSpan lines serverHeader) (findTableSpan lines envHeader) =
        [(before.length, before.length + 1 + body.length),
          (before.length + 1 + body.length + between.length,
            before.length + 1 + body.length + between.length + 1 + body'.length)])
      (hheaders : OwnHeaders header other)
      (hfound : Found header lines before head body (between ++ head' :: body' ++ after))
      (hfound' : Found other lines (before ++ head :: body ++ between) head' body' after)

/-- Two tables that were found, the first of which starts earlier. -/
theorem tables_two {lines before before' : List Line} {header header' head head' : Line}
    {body body' after after' : List Line} (h : Found header lines before head body after)
    (h' : Found header' lines before' head' body' after')
    (hspans : sortedSpans (findTableSpan lines serverHeader) (findTableSpan lines envHeader) =
      [(before.length, before.length + 1 + body.length),
        (before'.length, before'.length + 1 + body'.length)])
    (hheaders : OwnHeaders header header') (hlt : before.length < before'.length) :
    Tables lines := by
  have hhead' : strip head' = serverHeader ∨ strip head' = envHeader := by
    rw [h'.strip_head]
    exact hheaders.symm.imp And.right And.right
  obtain ⟨between, rfl, rfl⟩ := h.split h' (startsTable_of_header hhead') hlt
  have hlength : (before ++ head :: body ++ between).length =
      before.length + 1 + body.length + between.length := by
    simp only [List.length_append, List.length_cons]
    omega
  rw [hlength] at hspans
  exact .two header header' before head body between head' body' after' hspans hheaders h h'

theorem tables (lines : List Line) : Tables lines := by
  cases hserver : findTableSpan lines serverHeader with
  | none =>
    have hserver' := findTableSpan_eq_none hserver
    cases henv : findTableSpan lines envHeader with
    | none => exact .none (by rw [hserver, henv]; rfl) hserver' (findTableSpan_eq_none henv)
    | some span =>
      obtain ⟨before, head, body, after, h, rfl⟩ := findTableSpan_eq_some henv
      exact .one envHeader serverHeader before head body after (by rw [hserver, henv]; rfl)
        (.inr ⟨rfl, rfl⟩) h hserver'
  | some span =>
    obtain ⟨before, head, body, after, h, rfl⟩ := findTableSpan_eq_some hserver
    cases henv : findTableSpan lines envHeader with
    | none =>
      exact .one serverHeader envHeader before head body after (by rw [hserver, henv]; rfl)
        (.inl ⟨rfl, rfl⟩) h (findTableSpan_eq_none henv)
    | some span' =>
      obtain ⟨before', head', body', after', h', rfl⟩ := findTableSpan_eq_some henv
      by_cases hlt : before'.length < before.length
      · refine tables_two h' h ?_ (.inr ⟨rfl, rfl⟩) hlt
        rw [hserver, henv, sortedSpans, if_pos hlt]
      · refine tables_two h h' ?_ (.inl ⟨rfl, rfl⟩) ?_
        · rw [hserver, henv, sortedSpans, if_neg hlt]
        · refine Nat.lt_of_le_of_ne (Nat.not_lt.mp hlt) fun heq => ?_
          -- one line would be both headers
          have hsplit := h.lines_eq.symm.trans h'.lines_eq
          rw [List.append_assoc, List.append_assoc] at hsplit
          obtain ⟨-, hhead⟩ := List.append_inj hsplit heq
          rw [List.cons_append, List.cons_append, List.cons.injEq] at hhead
          have hstrip := h.strip_head
          rw [hhead.1, h'.strip_head] at hstrip
          exact absurd hstrip (by decide)

/-- The lines that replace the tables. -/
def replacedLines (before after : List Line) (stanza : List Line) : List Line :=
  before ++ stanza ++ separated after

theorem removeSpan_append {before middle after : List Line} {first last : ℕ}
    (hfirst : first = before.length) (hlast : last = before.length + middle.length) :
    removeSpan (first, last) (before ++ middle ++ after) = before ++ after := by
  subst hfirst hlast
  rw [removeSpan, List.append_assoc, List.take_left, ← List.length_append, ← List.append_assoc,
    List.drop_left]

/-- The text after a replacement. -/
theorem mergedText_eq {text : List Char} {stanza before after : List Line} {first : ℕ × ℕ}
    {spans : List (ℕ × ℕ)}
    (hspans : sortedSpans (findTableSpan (splitLines text) serverHeader)
      (findTableSpan (splitLines text) envHeader) = first :: spans)
    (hfirst : first.1 = before.length)
    (hremaining : (first :: spans).foldr removeSpan (splitLines text) = before ++ after) :
    mergedText text stanza =
      if endsWithNewline (joinLines (replacedLines before after stanza)) then
        joinLines (replacedLines before after stanza)
      else joinLines (replacedLines before after stanza) ++ ['\n'] := by
  simp only [mergedText, hspans, hremaining, hfirst, List.take_left, List.drop_left, replacedLines]
  rfl

/-! ### The lines of the new file -/

theorem joinLines_cons {lines : List Line} (h : lines ≠ []) (line : Line) :
    joinLines (line :: lines) = line ++ '\n' :: joinLines lines := by
  cases lines with
  | nil => exact absurd rfl h
  | cons next lines => rfl

theorem joinLines_concat {lines : List Line} (h : lines ≠ []) (last : Line) :
    joinLines (lines ++ [last]) = joinLines lines ++ '\n' :: last := by
  induction lines with
  | nil => exact absurd rfl h
  | cons line lines ih =>
    cases lines with
    | nil => rfl
    | cons next lines =>
      have hne : next :: lines ++ [last] ≠ [] := List.cons_ne_nil _ _
      rw [List.cons_append, joinLines_cons hne, ih (List.cons_ne_nil _ _),
        joinLines_cons (List.cons_ne_nil next lines), List.append_assoc]
      rfl

/-- A text ends with a line feed if its last line is empty and not the only one. -/
theorem endsWithNewline_joinLines {lines : List Line} (h : lines ≠ []) {last : Line}
    (hlast : last.getLast? ≠ some '\n') :
    endsWithNewline (joinLines (lines ++ [last])) = decide (last = []) := by
  rw [joinLines_concat h, endsWithNewline]
  cases last with
  | nil => simp
  | cons c last =>
    have hne : ('\n' :: c :: last).getLast? = (c :: last).getLast? := List.getLast?_cons_cons
    rw [List.getLast?_append_of_ne_nil _ (List.cons_ne_nil _ _), hne]
    simpa using hlast

/-- The line that `_merge_toml` adds at the end of a file whose last line is not empty. -/
def finalLine (last : Line) : List Line := if last = [] then [] else [[]]

/-- The lines of a joined text that is ended with a line feed if it is not yet. -/
theorem splitLines_terminated {lines : List Line} (h : lines ≠ []) {last : Line}
    (hlast : last.getLast? ≠ some '\n') :
    splitLines (if endsWithNewline (joinLines (lines ++ [last])) then joinLines (lines ++ [last])
      else joinLines (lines ++ [last]) ++ ['\n']) =
      (lines ++ [last]).flatMap splitLines ++ finalLine last := by
  have hne : lines ++ [last] ≠ [] := List.append_ne_nil_of_right_ne_nil _ (List.cons_ne_nil _ _)
  rw [endsWithNewline_joinLines h hlast, finalLine]
  by_cases hnil : last = []
  · rw [if_pos (decide_eq_true hnil), if_pos hnil, splitLines_joinLines hne, List.append_nil]
  · rw [if_neg (by simpa using hnil), if_neg hnil, splitLines_append, splitLines_joinLines hne]
    rfl

/-- The last line of the stanza. -/
theorem exists_tomlStanzaLines_eq (command : String) (envVars : List (String × String)) :
    ∃ init last, tomlStanzaLines command envVars = init ++ [last] ∧
      init ≠ [] ∧ last ≠ [] ∧ last.getLast? ≠ some '\n' := by
  rcases List.eq_nil_or_concat envVars with rfl | ⟨vars, var, rfl⟩
  · refine ⟨[serverHeader, assignment "command".toList command.toList, "required = true".toList, []],
      envHeader, rfl, List.cons_ne_nil _ _, by decide, by decide⟩
  · refine ⟨[serverHeader, assignment "command".toList command.toList, "required = true".toList, [],
      envHeader] ++ vars.map fun f => assignment f.1.toList f.2.toList,
      assignment var.1.toList var.2.toList, ?_, List.cons_ne_nil _ _, ?_, ?_⟩
    · rw [tomlStanzaLines, List.concat_eq_append, List.map_append, ← List.append_assoc]
      rfl
    · rw [assignment]
      exact List.append_ne_nil_of_right_ne_nil _ (List.cons_ne_nil _ _)
    · rw [assignment, List.getLast?_append_of_ne_nil _ (List.cons_ne_nil _ _)]
      decide

/-- The empty line between the stanza and what follows it. -/
def separator : List Line → List Line
  | [] => []
  | line :: _ => if strip line ≠ [] then [[]] else []

theorem separated_eq (after : List Line) : separated after = separator after ++ after := by
  cases after with
  | nil => rfl
  | cons line after =>
    rw [separated, separator]
    split_ifs <;> rfl

theorem separator_of_startsTable {after : List Line} (h : ∀ line ∈ after.head?, startsTable line = true)
    (hne : after ≠ []) : separator after = [[]] := by
  cases after with
  | nil => exact absurd rfl hne
  | cons line after => rw [separator, if_pos (strip_ne_nil_of_startsTable (h line rfl))]

/-- The line that `_merge_toml` adds after the stanza and what follows it. -/
def finalLines (after : List Line) : List Line :=
  match after.getLast? with
  | none => [[]]
  | some last => finalLine last

/-- The lines of the file after a replacement. -/
theorem splitLines_replaced {before after : List Line} (hbefore : ∀ line ∈ before, '\n' ∉ line)
    (hafter : ∀ line ∈ after, '\n' ∉ line) (command : String) (envVars : List (String × String)) :
    splitLines (if endsWithNewline (joinLines (replacedLines before after
        (tomlStanzaLines command envVars)))
      then joinLines (replacedLines before after (tomlStanzaLines command envVars))
      else joinLines (replacedLines before after (tomlStanzaLines command envVars)) ++ ['\n']) =
      before ++ ((tomlStanzaLines command envVars).flatMap splitLines ++ separator after ++ after ++
        finalLines after) := by
  obtain ⟨init, last, hstanza, hinit, hlast, hend⟩ := exists_tomlStanzaLines_eq command envVars
  rw [replacedLines, separated_eq]
  rcases List.eq_nil_or_concat after with rfl | ⟨rest, line, rfl⟩
  · rw [hstanza, separator, List.append_nil, List.append_nil, ← List.append_assoc,
      splitLines_terminated (List.append_ne_nil_of_right_ne_nil _ hinit) hend, finalLine, if_neg hlast,
      finalLines, List.append_assoc before, List.flatMap_append, flatMap_splitLines hbefore]
    simp only [List.getLast?_nil, List.append_nil, List.append_assoc]
  · rw [List.concat_eq_append] at hafter ⊢
    have hline : '\n' ∉ line := hafter line (by simp)
    have hne : before ++ tomlStanzaLines command envVars ++
        (separator (rest ++ [line]) ++ rest) ≠ [] := by
      rw [hstanza]
      simp
    have hgetLast : line.getLast? ≠ some '\n' := fun h => hline (List.mem_of_getLast? h)
    have hseparator : ∀ l ∈ separator (rest ++ [line]), '\n' ∉ l := by
      intro l hl
      have hnil : l = [] := by
        cases hrest : rest ++ [line] with
        | nil => rw [hrest] at hl; cases hl
        | cons x xs =>
          rw [hrest, separator] at hl
          split_ifs at hl
          · exact List.mem_singleton.mp hl
          · cases hl
      rw [hnil]
      exact List.not_mem_nil
    rw [← List.append_assoc (separator _), ← List.append_assoc (before ++ _),
      splitLines_terminated hne hgetLast, finalLines, List.getLast?_concat]
    simp only [List.flatMap_append, flatMap_splitLines hbefore, flatMap_splitLines hseparator,
      flatMap_splitLines fun l hl => hafter l (List.mem_append_left _ hl), List.flatMap_cons,
      List.flatMap_nil, splitLines_of_not_mem hline, List.append_assoc, List.append_nil]

/-! ### Foreign lines -/

/-- A comment or a line with nothing in it. -/
def isRemark (line : Line) : Bool :=
  match lstrip line with
  | [] => true
  | c :: _ => c == '#'

/-- One of the two header lines. -/
def isOwnHeader (line : Line) : Prop := strip line = serverHeader ∨ strip line = envHeader

instance (line : Line) : Decidable (isOwnHeader line) := by
  unfold isOwnHeader
  infer_instance

/-- The lines that are neither a header line of the two tables nor a key of them. -/
def foreignFrom (inTable : Bool) : List Line → List Line
  | [] => []
  | line :: lines =>
    if isOwnHeader line then foreignFrom true lines
    else if startsTable line then line :: foreignFrom false lines
    else if inTable && !isRemark line then foreignFrom inTable lines
    else line :: foreignFrom inTable lines

/-- The foreign lines of a file. -/
def foreignLines (lines : List Line) : List Line := foreignFrom false lines

theorem foreignFrom_body {body : List Line} (hbody : ∀ line ∈ body, startsTable line = false)
    (after : List Line) :
    foreignFrom true (body ++ after) = body.filter isRemark ++ foreignFrom true after := by
  induction body with
  | nil => rfl
  | cons line body ih =>
    have hline := hbody line List.mem_cons_self
    have hheader : ¬isOwnHeader line := by
      intro h
      rw [startsTable_of_header h] at hline
      cases hline
    rw [List.cons_append, foreignFrom, if_neg hheader, if_neg (by rw [hline]; exact Bool.false_ne_true),
      ih fun l hl => hbody l (List.mem_cons_of_mem _ hl), List.filter_cons]
    cases isRemark line <;> rfl

theorem foreignFrom_false {lines : List Line} (h : ∀ line ∈ lines, ¬isOwnHeader line)
    (after : List Line) : foreignFrom false (lines ++ after) = lines ++ foreignFrom false after := by
  induction lines with
  | nil => rfl
  | cons line lines ih =>
    have hrest := ih fun l hl => h l (List.mem_cons_of_mem _ hl)
    rw [List.cons_append, foreignFrom, if_neg (h line List.mem_cons_self), hrest]
    split_ifs with htable hkey
    · rfl
    · cases hkey
    · rfl

/-- Lines that start with a table line and have no header of the server are all foreign. -/
theorem foreignFrom_true {lines : List Line} (h : ∀ line ∈ lines, ¬isOwnHeader line)
    (hstart : ∀ line ∈ lines.head?, startsTable line = true) : foreignFrom true lines = lines := by
  cases lines with
  | nil => rfl
  | cons line lines =>
    have hrest := foreignFrom_false (fun l hl => h l (List.mem_cons_of_mem line hl)) []
    rw [List.append_nil, foreignFrom, List.append_nil] at hrest
    rw [foreignFrom, if_neg (h line List.mem_cons_self), if_pos (hstart line rfl), hrest]

theorem foreignFrom_true_append {lines : List Line} (h : ∀ line ∈ lines, ¬isOwnHeader line)
    (hstart : ∀ line ∈ lines.head?, startsTable line = true) {head : Line} (hhead : isOwnHeader head)
    (after : List Line) :
    foreignFrom true (lines ++ head :: after) = lines ++ foreignFrom true after := by
  cases lines with
  | nil => rw [List.nil_append, foreignFrom, if_pos hhead]; rfl
  | cons line lines =>
    rw [List.cons_append, foreignFrom, if_neg (h line List.mem_cons_self), if_pos (hstart line rfl),
      foreignFrom_false (fun l hl => h l (List.mem_cons_of_mem line hl)), foreignFrom, if_pos hhead]
    rfl

/-! ### When the foreign lines are kept -/

/-- The comments and empty lines in the body of a table. -/
def remarksOf (lines : List Line) (span : ℕ × ℕ) : List Line :=
  ((lines.drop (span.1 + 1)).take (span.2 - (span.1 + 1))).filter isRemark

/-- The tables have no comments, and not more empty lines than the merge writes anew: two in tables
that follow each other; otherwise two in the first, and in the second one if it ends a file in which
the line before it is not empty. -/
def KeepsRemarks (lines : List Line) : Prop :=
  match sortedSpans (findTableSpan lines serverHeader) (findTableSpan lines envHeader) with
  | [] => True
  | [span] =>
    (∀ line ∈ remarksOf lines span, line = []) ∧ (remarksOf lines span).length ≤ 2
  | first :: second :: _ =>
    (∀ line ∈ remarksOf lines first ++ remarksOf lines second, line = []) ∧
      if first.2 = second.1 then
        (remarksOf lines first).length + (remarksOf lines second).length ≤ 2
      else (remarksOf lines first).length ≤ 2 ∧ (remarksOf lines second).length ≤
        if second.2 = lines.length ∧ lines.getD (second.1 - 1) [] ≠ [] then 1 else 0

theorem length_table (before : List Line) (head : Line) (body between : List Line) :
    (before ++ head :: body ++ between).length =
      before.length + 1 + body.length + between.length := by
  simp only [List.length_append, List.length_cons]
  omega

theorem remarksOf_append (before : List Line) (head : Line) (body after : List Line) :
    remarksOf (before ++ head :: body ++ after)
      (before.length, before.length + 1 + body.length) = body.filter isRemark := by
  have hdrop : (before ++ head :: body ++ after).drop (before.length + 1) = body ++ after := by
    have happend : before ++ head :: body ++ after = (before ++ [head]) ++ (body ++ after) := by simp
    rw [happend, List.drop_left' (by simp)]
  rw [remarksOf, hdrop, Nat.add_sub_cancel_left, List.take_left]

/-- Empty lines before a line that is not empty are found before the first such line. -/
theorem sublist_empty {n : ℕ} {line : Line} {first rest rest' : List Line} (hline : line ≠ [])
    (hfirst : line ∉ first) (hlength : rest'.length ≤ rest.length + 1)
    (h : (List.replicate n [] ++ line :: rest).Sublist (first ++ line :: rest')) :
    n ≤ first.count [] ∧ rest.Sublist rest' := by
  obtain ⟨l₁, l₂, heq, h₁, h₂⟩ := List.sublist_append_iff.mp h
  rcases List.append_eq_append_iff.mp heq with ⟨more, rfl, hrest⟩ | ⟨more, hreplicate, rfl⟩
  · cases more with
    | nil =>
      rw [List.append_nil] at h₁
      rw [List.nil_append] at hrest
      rw [← hrest] at h₂
      exact ⟨List.replicate_sublist_iff.mp h₁, List.cons_sublist_cons.mp h₂⟩
    | cons x more =>
      -- the line would be found in the first part
      rw [List.cons_append, List.cons.injEq] at hrest
      exact absurd (h₁.subset (by simp [hrest.1])) hfirst
  · cases more with
    | nil =>
      rw [List.append_nil] at hreplicate
      rw [← hreplicate] at h₁
      exact ⟨List.replicate_sublist_iff.mp h₁, List.cons_sublist_cons.mp h₂⟩
    | cons x more =>
      have hx : x = [] := by
        have hmem : x ∈ List.replicate n ([] : Line) := by rw [hreplicate]; simp
        exact (List.mem_replicate.mp hmem).2
      rw [hx, List.cons_append] at h₂
      rcases List.cons_sublist_cons'.mp h₂ with h₂ | ⟨hnil, -⟩
      · have hle := h₂.length_le
        simp only [List.length_cons, List.length_append] at hle
        omega
      · exact absurd hnil.symm hline

theorem mem_of_isRemark {line : Line} (h : isRemark line = true) (hne : line ≠ []) :
    line ∉ tomlStanzaLines "" [] := by
  have hstanza : ∀ l ∈ tomlStanzaLines "" [], l ≠ [] → isRemark l = false := by decide
  intro hmem
  rw [hstanza line hmem hne] at h
  cases h

/-- A line without the carriage return of a line end of two characters. -/
def withoutReturn (line : Line) : Line := if line.getLast? = some '\r' then line.dropLast else line

/-- Every line of the text is read on its own: no string and no array goes over several lines. -/
def ReadByLines (tomllibLoads : String → TomlAnswer) (text : String) : Prop :=
  ∀ line ∈ splitLines text.toList, tomllibLoads (String.ofList (withoutReturn line)) = .accepted

/-- A table is defined once: no text that is read by lines has two lines with the same header. -/
def DefinesTablesOnce (tomllibLoads : String → TomlAnswer) : Prop :=
  ∀ text, tomllibLoads text = .accepted → ReadByLines tomllibLoads text →
    ∀ header ∈ [serverHeader, envHeader],
      (splitLines text.toList).countP (fun line => strip line = header) ≤ 1

/-- For every command and environment, the foreign lines of a file are lines of the new one, in
their order. -/
def KeepsForeignLines (tomllibLoads : String → TomlAnswer) (existing : Bytes) : Prop :=
  ∀ text, Bytes.decodeUtf8 existing = some text → ∀ command envVars out,
    mergeToml tomllibLoads (some existing) command envVars = .ok out →
      ∃ merged, Bytes.decodeUtf8 out = some merged ∧
        (foreignLines (splitLines text.toList)).Sublist (splitLines merged.toList)

theorem keepsForeignLines_of_accepted {tomllibLoads : String → TomlAnswer} {existing : Bytes}
    {text : String} (hdecode : Bytes.decodeUtf8 existing = some text)
    (haccepted : tomllibLoads text = .accepted) :
    KeepsForeignLines tomllibLoads existing ↔ ∀ command envVars,
      (foreignLines (splitLines text.toList)).Sublist
        (splitLines (mergedText text.toList (tomlStanzaLines command envVars))) := by
  have hmerge : ∀ command envVars, mergeToml tomllibLoads (some existing) command envVars =
      .ok (Bytes.encodeUtf8 (String.ofList
        (mergedText text.toList (tomlStanzaLines command envVars)))) := by
    intro command envVars
    simp only [mergeToml, hdecode, haccepted]
  constructor
  · intro h command envVars
    obtain ⟨merged, hmerged, hsublist⟩ := h text hdecode command envVars _ (hmerge command envVars)
    rw [Bytes.decodeUtf8_encodeUtf8, Option.some.injEq] at hmerged
    rw [← hmerged, String.toList_ofList] at hsublist
    exact hsublist
  · intro h text' htext' command envVars out hout
    rw [hdecode, Option.some.injEq] at htext'
    rw [hmerge, Except.ok.injEq] at hout
    refine ⟨_, by rw [← hout, Bytes.decodeUtf8_encodeUtf8], ?_⟩
    rw [← htext', String.toList_ofList]
    exact h command envVars

/-- Nothing is lost where the stanza is added at the end. -/
theorem sublist_appended {text : List Char} (stanza : List Line)
    (hspans : sortedSpans (findTableSpan (splitLines text) serverHeader)
      (findTableSpan (splitLines text) envHeader) = []) :
    (splitLines text).Sublist (splitLines (mergedText text stanza)) := by
  have hterminated : ∃ t, (if endsWithNewline text then text else text ++ ['\n']) = t ++ ['\n'] ∧
      (splitLines text).Sublist (splitLines t ++ [[]]) := by
    by_cases hend : endsWithNewline text = true
    · rw [if_pos hend]
      rw [endsWithNewline, beq_iff_eq, List.getLast?_eq_some_iff] at hend
      obtain ⟨t, rfl⟩ := hend
      have hsplit : splitLines (t ++ ['\n']) = splitLines t ++ [[]] := splitLines_append t []
      exact ⟨t, rfl, by rw [hsplit]⟩
    · rw [if_neg hend]
      exact ⟨text, rfl, List.sublist_append_left _ _⟩
  obtain ⟨t, hterminated, hsublist⟩ := hterminated
  refine hsublist.trans ?_
  have hlonger : ∀ cs : List Char,
      (splitLines t ++ [[]]).Sublist (splitLines (t ++ '\n' :: (cs ++ ['\n']))) := by
    intro cs
    rw [splitLines_append, splitLines_append]
    exact (List.Sublist.refl _).append (List.sublist_append_right _ _)
  simp only [mergedText, hspans]
  rw [hterminated]
  split_ifs
  · have heq : t ++ ['\n'] ++ ['\n'] ++ joinLines stanza ++ ['\n'] =
        t ++ '\n' :: (('\n' :: joinLines stanza) ++ ['\n']) := by simp
    rw [heq]
    exact hlonger _
  · have heq : t ++ ['\n'] ++ joinLines stanza ++ ['\n'] =
        t ++ '\n' :: (joinLines stanza ++ ['\n']) := by simp
    rw [heq]
    exact hlonger _

/-- What the stanza, the empty line after it and the last line leave room for. -/
theorem sublist_replicate_stanza {n : ℕ} (hn : n ≤ 2) (command : String)
    (envVars : List (String × String)) :
    (List.replicate n ([] : Line)).Sublist
      ((tomlStanzaLines command envVars).flatMap splitLines ++ [[]]) := by
  rw [List.replicate_sublist_iff, List.count_append]
  have hstanza : 1 ≤ ((tomlStanzaLines command envVars).flatMap splitLines).count [] := by
    rw [List.one_le_count_iff, List.mem_flatMap]
    exact ⟨[], by simp [tomlStanzaLines], by simp [splitLines]⟩
  have hone : List.count ([] : Line) [[]] = 1 := rfl
  omega

/-- The lines of the file with the shortest stanza. -/
theorem flatMap_tomlStanzaLines :
    (tomlStanzaLines "" []).flatMap splitLines = tomlStanzaLines "" [] :=
  flatMap_splitLines (by decide)

theorem count_tomlStanzaLines : (tomlStanzaLines "" []).count [] = 1 := by decide

/-- A line that starts a table of another name is not in the stanza. -/
theorem not_mem_tomlStanzaLines {line : Line} (hstart : startsTable line = true)
    (hheader : ¬isOwnHeader line) : line ∉ tomlStanzaLines "" [] ++ [[]] := by
  have hlines : ∀ l ∈ tomlStanzaLines "" [] ++ [[]], startsTable l = true → isOwnHeader l := by
    decide
  exact fun hmem => hheader (hlines line hmem hstart)

theorem eq_replicate_of_forall {lines : List Line} (h : ∀ line ∈ lines, line = []) :
    lines = List.replicate lines.length [] :=
  List.eq_replicate_length.mpr h

theorem isOwnHeader_iff {header other : Line} (h : OwnHeaders header other) (line : Line) :
    isOwnHeader line ↔ strip line = header ∨ strip line = other := by
  rcases h with ⟨rfl, rfl⟩ | ⟨rfl, rfl⟩
  · exact Iff.rfl
  · exact or_comm

/-- A header that is defined once is not found again after its table. -/
theorem Found.not_again {header head : Line} {lines before body after : List Line}
    (h : Found header lines before head body after)
    (honce : lines.countP (fun line => strip line = header) ≤ 1) :
    ∀ line ∈ after, strip line ≠ header := by
  intro line hline hstrip
  rw [h.lines_eq, List.append_assoc, List.cons_append, List.countP_append, List.countP_cons_of_pos
    (by simpa using h.strip_head), List.countP_append] at honce
  have hpos : 0 < after.countP fun line => strip line = header :=
    List.countP_pos_iff.mpr ⟨line, hline, by simpa using hstrip⟩
  omega

theorem Found.ne_newline {header head : Line} {text : List Char} {before body after : List Line}
    (h : Found header (splitLines text) before head body after) :
    (∀ line ∈ before, '\n' ∉ line) ∧ ∀ line ∈ after, '\n' ∉ line := by
  constructor
  · intro line hline
    refine @not_mem_of_mem_splitLines text _ ?_
    rw [h.lines_eq]
    simp [hline]
  · intro line hline
    refine @not_mem_of_mem_splitLines text _ ?_
    rw [h.lines_eq]
    simp [hline]

/-- What is written besides the kept lines has no comment. -/
theorem count_remark {line : Line} (h : isRemark line = true) (hne : line ≠ [])
    (after : List Line) :
    (tomlStanzaLines "" []).count line = 0 ∧ (separator after).count line = 0 ∧
      (finalLines after).count line = 0 := by
  have hempty : ([[]] : List Line).count line = 0 :=
    List.count_eq_zero.mpr fun hmem => hne (List.mem_singleton.mp hmem)
  refine ⟨List.count_eq_zero.mpr (mem_of_isRemark h hne), ?_, ?_⟩
  · cases after with
    | nil => rfl
    | cons first after =>
      rw [separator]
      split_ifs
      · exact hempty
      · rfl
  · rw [finalLines]
    split
    · exact hempty
    · rw [finalLine]
      split_ifs
      · rfl
      · exact hempty

theorem length_finalLines_le (after : List Line) : (finalLines after).length ≤ 1 := by
  rw [finalLines]
  split
  · exact Nat.le_refl 1
  · rw [finalLine]
    split_ifs
    · exact Nat.zero_le 1
    · exact Nat.le_refl 1

/-- The new file has room for the remarks of tables that follow each other exactly if they are at
most two empty lines. -/
theorem room_iff {remarks after : List Line} (hremarks : ∀ line ∈ remarks, isRemark line = true)
    (hstart : ∀ line ∈ after.head?, startsTable line = true)
    (hforeign : ∀ line ∈ after, ¬isOwnHeader line) :
    (∀ command envVars, (remarks ++ after).Sublist
      ((tomlStanzaLines command envVars).flatMap splitLines ++ separator after ++ after ++
        finalLines after)) ↔
      (∀ line ∈ remarks, line = []) ∧ remarks.length ≤ 2 := by
  constructor
  · intro h
    have hsublist := h "" []
    rw [flatMap_tomlStanzaLines] at hsublist
    have hempty : ∀ line ∈ remarks, line = [] := by
      intro line hline
      by_contra hne
      obtain ⟨h₁, h₂, h₃⟩ := count_remark (hremarks line hline) hne after
      have hcount := hsublist.count_le line
      have hpos := List.count_pos_iff.mpr hline
      simp only [List.count_append] at hcount
      omega
    refine ⟨hempty, ?_⟩
    rw [eq_replicate_of_forall hempty] at hsublist
    cases after with
    | nil =>
      have hcount := hsublist.count_le []
      have hfinal := length_finalLines_le []
      have hfinalCount := List.count_le_length (a := ([] : Line)) (l := finalLines [])
      simp only [separator, List.append_nil, List.count_append, List.count_replicate_self,
        count_tomlStanzaLines] at hcount
      omega
    | cons first after =>
      have hfirst := hstart first rfl
      rw [separator_of_startsTable hstart (List.cons_ne_nil _ _), List.append_assoc _ (first :: after),
        List.cons_append] at hsublist
      have hne : first ≠ [] := fun hnil => by rw [hnil] at hfirst; cases hfirst
      have hle := (sublist_empty hne (not_mem_tomlStanzaLines hfirst (hforeign first List.mem_cons_self))
        (by
          have := length_finalLines_le (first :: after)
          rw [List.length_append]
          omega) hsublist).1
      rw [List.count_append, count_tomlStanzaLines] at hle
      exact hle
  · rintro ⟨hempty, hlength⟩ command envVars
    have hroom := sublist_replicate_stanza hlength command envVars
    rw [← eq_replicate_of_forall hempty] at hroom
    cases after with
    | nil => simpa [separator, finalLines] using hroom
    | cons first after =>
      rw [separator_of_startsTable hstart (List.cons_ne_nil _ _)]
      exact (hroom.append (List.Sublist.refl _)).trans (List.sublist_append_left _ _)

/-- The same for tables that do not follow each other: two empty lines in the first of them, and in
the second as many as the merge writes at the end of the file. -/
theorem room_between_iff {remarks remarks' after : List Line} {first : Line} {rest : List Line}
    (hremarks : ∀ line ∈ remarks ++ remarks', isRemark line = true)
    (hfirst : startsTable first = true) (hown : ¬isOwnHeader first)
    (hstart : ∀ line ∈ after.head?, startsTable line = true) :
    (∀ command envVars, (remarks ++ (first :: rest ++ (remarks' ++ after))).Sublist
      ((tomlStanzaLines command envVars).flatMap splitLines ++
        separator (first :: rest ++ after) ++ (first :: rest ++ after) ++
        finalLines (first :: rest ++ after))) ↔
      (∀ line ∈ remarks ++ remarks', line = []) ∧ remarks.length ≤ 2 ∧ remarks'.length ≤
        if after = [] ∧ (first :: rest).getLastD [] ≠ [] then 1 else 0 := by
  have hseparator : separator (first :: rest ++ after) = [[]] :=
    separator_of_startsTable (by rintro _ ⟨⟩; exact hfirst) (List.cons_ne_nil _ _)
  have hne : first ≠ [] := fun hnil => by rw [hnil] at hfirst; cases hfirst
  have hfinal := length_finalLines_le (first :: rest ++ after)
  -- with nothing after the second table, the last line decides what is added
  have hlast : after = [] → (finalLines (first :: rest ++ after)).length =
      if (first :: rest).getLastD [] ≠ [] then 1 else 0 := by
    rintro rfl
    rw [List.append_nil, finalLines, List.getLast?_cons, List.getLastD_cons,
      List.getLastD_eq_getLast?]
    dsimp only
    rw [finalLine]
    by_cases hnil : rest.getLast?.getD first = []
    · rw [if_pos hnil, if_neg (not_not_intro hnil)]
      rfl
    · rw [if_neg hnil, if_pos hnil]
      rfl
  constructor
  · intro h
    have hsublist := h "" []
    rw [flatMap_tomlStanzaLines] at hsublist
    have hempty : ∀ line ∈ remarks ++ remarks', line = [] := by
      intro line hline
      by_contra hnot
      obtain ⟨h₁, h₂, h₃⟩ := count_remark (hremarks line hline) hnot (first :: rest ++ after)
      have hcount := hsublist.count_le line
      have hpos := List.count_pos_iff.mpr hline
      simp only [List.count_append] at hcount hpos h₁ h₂ h₃
      omega
    refine ⟨hempty, ?_⟩
    have hreplicate := eq_replicate_of_forall fun l hl => hempty l (List.mem_append_left _ hl)
    have hreplicate' := eq_replicate_of_forall fun l hl => hempty l (List.mem_append_right _ hl)
    rw [hseparator, hreplicate, List.append_assoc _ (first :: rest ++ after), List.cons_append,
      List.cons_append, List.cons_append] at hsublist
    obtain ⟨hle, hrest⟩ := sublist_empty hne (not_mem_tomlStanzaLines hfirst hown) (by
      simp only [List.cons_append] at hfinal
      simp only [List.length_append]
      omega) hsublist
    rw [List.count_append, count_tomlStanzaLines] at hle
    refine ⟨hle, ?_⟩
    rw [List.append_assoc rest, List.append_sublist_append_left, hreplicate'] at hrest
    cases after with
    | nil =>
      have hlength := hrest.length_le
      rw [List.append_nil, List.nil_append, List.length_replicate] at hlength
      have hone := hlast rfl
      rw [List.cons_append] at hone
      rw [hone] at hlength
      simpa using hlength
    | cons next after =>
      have hnext := hstart next rfl
      have hnextNe : next ≠ [] := fun hnil => by rw [hnil] at hnext; cases hnext
      have hrest' : (List.replicate remarks'.length [] ++ next :: after).Sublist
          ([] ++ next :: (after ++ finalLines (first :: rest ++ next :: after))) := hrest
      have hzero := (sublist_empty hnextNe List.not_mem_nil (by
        rw [List.length_append]
        omega) hrest').1
      simpa using hzero
  · rintro ⟨hempty, hlength, hlength'⟩ command envVars
    have hroom := sublist_replicate_stanza hlength command envVars
    rw [← eq_replicate_of_forall fun l hl => hempty l (List.mem_append_left _ hl)] at hroom
    rw [hseparator, List.append_assoc _ (first :: rest ++ after), List.append_assoc (first :: rest)]
    refine hroom.append ((List.Sublist.refl _).append ?_)
    have hreplicate' := eq_replicate_of_forall fun l hl => hempty l (List.mem_append_right _ hl)
    cases after with
    | nil =>
      have hone := hlast rfl
      rw [List.append_nil] at hone ⊢
      simp only [true_and] at hlength'
      rw [← hone] at hlength'
      have hfinalEmpty : ∀ line ∈ finalLines (first :: rest), line = [] := by
        intro line hline
        by_contra hnot
        rw [finalLines] at hline
        split at hline
        · exact hnot (List.mem_singleton.mp hline)
        · rw [finalLine] at hline
          split_ifs at hline
          · cases hline
          · exact hnot (List.mem_singleton.mp hline)
      rw [List.append_nil, List.nil_append, hreplicate', eq_replicate_of_forall hfinalEmpty,
        List.replicate_sublist_replicate]
      exact hlength'
    | cons next after =>
      rw [if_neg (by simp)] at hlength'
      rw [List.length_eq_zero_iff.mp (Nat.le_zero.mp hlength'), List.nil_append]
      exact List.sublist_append_left _ _

/-! ### The two cases in which tables are removed -/

theorem OwnHeaders.mem {header other : Line} (h : OwnHeaders header other) :
    header ∈ [serverHeader, envHeader] ∧ other ∈ [serverHeader, envHeader] := by
  rcases h with ⟨rfl, rfl⟩ | ⟨rfl, rfl⟩ <;> simp

/-- The lines of the new file, where one table is replaced. -/
theorem splitLines_mergedText_one {header : Line} {text : List Char} {before : List Line} {head : Line}
    {body after : List Line} (hfound : Found header (splitLines text) before head body after)
    (hspans : sortedSpans (findTableSpan (splitLines text) serverHeader)
      (findTableSpan (splitLines text) envHeader) =
        [(before.length, before.length + 1 + body.length)])
    (command : String) (envVars : List (String × String)) :
    splitLines (mergedText text (tomlStanzaLines command envVars)) =
      before ++ ((tomlStanzaLines command envVars).flatMap splitLines ++ separator after ++ after ++
        finalLines after) := by
  have hremaining : [(before.length, before.length + 1 + body.length)].foldr removeSpan
      (splitLines text) = before ++ after := by
    rw [List.foldr_cons, List.foldr_nil, hfound.lines_eq]
    exact removeSpan_append rfl (by rw [List.length_cons]; omega)
  obtain ⟨hbefore, hafter⟩ := hfound.ne_newline
  rw [mergedText_eq hspans rfl hremaining]
  exact splitLines_replaced hbefore hafter command envVars

/-- The lines of the new file, where two tables are replaced. -/
theorem splitLines_mergedText_two {header other : Line} {text : List Char} {before : List Line}
    {head : Line} {body between : List Line} {head' : Line} {body' after : List Line}
    (hfound : Found header (splitLines text) before head body (between ++ head' :: body' ++ after))
    (hspans : sortedSpans (findTableSpan (splitLines text) serverHeader)
      (findTableSpan (splitLines text) envHeader) =
        [(before.length, before.length + 1 + body.length),
          (before.length + 1 + body.length + between.length,
            before.length + 1 + body.length + between.length + 1 + body'.length)])
    (hfound' : Found other (splitLines text) (before ++ head :: body ++ between) head' body' after)
    (command : String) (envVars : List (String × String)) :
    splitLines (mergedText text (tomlStanzaLines command envVars)) =
      before ++ ((tomlStanzaLines command envVars).flatMap splitLines ++ separator (between ++ after) ++
        (between ++ after) ++ finalLines (between ++ after)) := by
  have hremaining : [(before.length, before.length + 1 + body.length),
      (before.length + 1 + body.length + between.length,
        before.length + 1 + body.length + between.length + 1 + body'.length)].foldr removeSpan
      (splitLines text) = before ++ (between ++ after) := by
    rw [List.foldr_cons, List.foldr_cons, List.foldr_nil, hfound'.lines_eq,
      removeSpan_append (by simp only [List.length_append, List.length_cons]; omega)
        (by simp only [List.length_append, List.length_cons]; omega),
      List.append_assoc _ between]
    exact removeSpan_append rfl (by rw [List.length_cons]; omega)
  have hbetween : ∀ line ∈ between, '\n' ∉ line := fun line hline =>
    hfound'.ne_newline.1 line (List.mem_append_right _ hline)
  have hafter : ∀ line ∈ between ++ after, '\n' ∉ line := by
    intro line hline
    rcases List.mem_append.mp hline with hline | hline
    · exact hbetween line hline
    · exact hfound'.ne_newline.2 line hline
  rw [mergedText_eq hspans rfl hremaining]
  exact splitLines_replaced hfound.ne_newline.1 hafter command envVars

/-- A single table leaves the lines before and after it, and its remarks. -/
theorem foreignLines_one {lines before : List Line} {head : Line} {body after : List Line}
    (hlines : lines = before ++ head :: body ++ after) (hhead : isOwnHeader head)
    (hbody : ∀ line ∈ body, startsTable line = false)
    (hbefore : ∀ line ∈ before, ¬isOwnHeader line) :
    foreignLines lines = before ++ (body.filter isRemark ++ foreignFrom true after) := by
  rw [hlines, foreignLines, List.append_assoc, foreignFrom_false hbefore, List.cons_append, foreignFrom,
    if_pos hhead, foreignFrom_body hbody]

theorem isRemark_of_mem_filter {body : List Line} :
    ∀ line ∈ body.filter isRemark, isRemark line = true := fun _ hline => List.of_mem_filter hline

/-- The line before the second table is the last one of what comes before it. -/
theorem getD_length_sub_one {lines : List Line} (h : lines ≠ []) (more : List Line) :
    (lines ++ more).getD (lines.length - 1) [] = lines.getLastD [] := by
  have hpos := List.length_pos_of_ne_nil h
  rw [List.getD_eq_getElem?_getD, List.getElem?_append_left (by omega), ← List.getLast?_eq_getElem?,
    List.getLastD_eq_getLast?]

/-- The merge keeps the foreign lines of a file exactly if the tables it removes have no comments,
and no more empty lines than it writes anew. -/
theorem keepsForeignLines_iff (tomllibLoads : String → TomlAnswer)
    (honce : DefinesTablesOnce tomllibLoads) {existing : Bytes} {text : String}
    (hdecode : Bytes.decodeUtf8 existing = some text) (haccepted : tomllibLoads text = .accepted)
    (hlines : ReadByLines tomllibLoads text) :
    KeepsForeignLines tomllibLoads existing ↔ KeepsRemarks (splitLines text.toList) := by
  rw [keepsForeignLines_of_accepted hdecode haccepted]
  have hcount := honce text haccepted hlines
  rcases tables (splitLines text.toList) with
    ⟨hspans, hserver, henv⟩ | ⟨header, other, before, head, body, after, hspans, hheaders, hfound, hother⟩ |
    ⟨header, other, before, head, body, between, head', body', after, hspans, hheaders, hfound, hfound'⟩
  · -- nothing is removed
    have hforeign : foreignLines (splitLines text.toList) = splitLines text.toList := by
      have h := @foreignFrom_false (splitLines text.toList)
        (fun line hline => not_or.mpr ⟨hserver line hline, henv line hline⟩) []
      rwa [List.append_nil, foreignFrom, List.append_nil] at h
    rw [KeepsRemarks, hspans, hforeign, iff_true]
    intro command envVars
    exact sublist_appended _ hspans
  · have hown := isOwnHeader_iff hheaders
    have hotherBefore : ∀ line ∈ before, strip line ≠ other := fun line hline =>
      hother line (by rw [hfound.lines_eq]; simp [hline])
    have hotherAfter : ∀ line ∈ after, strip line ≠ other := fun line hline =>
      hother line (by rw [hfound.lines_eq]; simp [hline])
    have hbefore : ∀ line ∈ before, ¬isOwnHeader line := fun line hline h =>
      ((hown line).mp h).elim (hfound.first line hline) (hotherBefore line hline)
    have hafter : ∀ line ∈ after, ¬isOwnHeader line := fun line hline h =>
      ((hown line).mp h).elim (hfound.not_again (hcount header hheaders.mem.1) line hline)
        (hotherAfter line hline)
    rw [foreignLines_one hfound.lines_eq ((hown head).mpr (.inl hfound.strip_head)) hfound.body hbefore,
      foreignFrom_true hafter hfound.after, KeepsRemarks, hspans]
    simp only [splitLines_mergedText_one hfound hspans, List.append_sublist_append_left]
    rw [room_iff isRemark_of_mem_filter hfound.after hafter, hfound.lines_eq, remarksOf_append]
  · have hown := isOwnHeader_iff hheaders
    have hlinesEq : splitLines text.toList =
        before ++ head :: body ++ (between ++ head' :: body' ++ after) := hfound.lines_eq
    have honceHeader := hfound.not_again (hcount header hheaders.mem.1)
    have honceOther := hfound'.not_again (hcount other hheaders.mem.2)
    have hbefore : ∀ line ∈ before, ¬isOwnHeader line := fun line hline h =>
      ((hown line).mp h).elim (hfound.first line hline)
        (hfound'.first line (by simp [hline]))
    have hbetween : ∀ line ∈ between, ¬isOwnHeader line := fun line hline h =>
      ((hown line).mp h).elim (honceHeader line (by simp [hline]))
        (hfound'.first line (by simp [hline]))
    have hafter : ∀ line ∈ after, ¬isOwnHeader line := fun line hline h =>
      ((hown line).mp h).elim (honceHeader line (by simp [hline])) (honceOther line hline)
    have hhead' : isOwnHeader head' := (hown head').mpr (.inr hfound'.strip_head)
    have hbetweenStart : ∀ line ∈ between.head?, startsTable line = true := by
      intro line hline
      refine hfound.after line ?_
      rw [List.append_assoc, List.head?_append_of_ne_nil]
      · exact hline
      · rintro rfl
        cases hline
    have hforeign : foreignLines (splitLines text.toList) =
        before ++ (body.filter isRemark ++ (between ++ (body'.filter isRemark ++ after))) := by
      rw [foreignLines_one hlinesEq ((hown head).mpr (.inl hfound.strip_head)) hfound.body hbefore,
        List.append_assoc between, List.cons_append,
        foreignFrom_true_append hbetween hbetweenStart hhead', foreignFrom_body hfound'.body,
        foreignFrom_true hafter hfound'.after]
    have hremarks := remarksOf_append before head body (between ++ head' :: body' ++ after)
    rw [← hlinesEq] at hremarks
    have hremarks' := remarksOf_append (before ++ head :: body ++ between) head' body' after
    rw [← hfound'.lines_eq, length_table] at hremarks'
    have hall : ∀ line ∈ body.filter isRemark ++ body'.filter isRemark, isRemark line = true := by
      intro line hline
      rw [← List.filter_append] at hline
      exact List.of_mem_filter hline
    rw [hforeign, KeepsRemarks, hspans]
    simp only [splitLines_mergedText_two hfound hspans hfound', List.append_sublist_append_left,
      hremarks, hremarks']
    cases between with
    | nil =>
      simp only [List.length_nil, Nat.add_zero, List.nil_append, if_true]
      rw [← List.append_assoc (body.filter isRemark), room_iff hall hfound'.after hafter,
        List.length_append]
    | cons first rest =>
      rw [if_neg (by rw [List.length_cons]; omega),
        room_between_iff hall (hbetweenStart first rfl) (hbetween first List.mem_cons_self)
          hfound'.after]
      have hend : before.length + 1 + body.length + (first :: rest).length + 1 + body'.length =
          (splitLines text.toList).length ↔ after = [] := by
        have hlength := length_table (before ++ head :: body ++ first :: rest) head' body' after
        rw [← hfound'.lines_eq, length_table] at hlength
        rw [hlength, ← List.length_eq_zero_iff]
        omega
      have hlast : (splitLines text.toList).getD
          (before.length + 1 + body.length + (first :: rest).length - 1) [] =
            (first :: rest).getLastD [] := by
        rw [hfound'.lines_eq, ← length_table before head, List.append_assoc _ (head' :: body'),
          getD_length_sub_one (List.append_ne_nil_of_right_ne_nil _ (List.cons_ne_nil _ _)),
          List.getLastD_eq_getLast?, List.getLast?_append_of_ne_nil _ (List.cons_ne_nil _ _),
          ← List.getLastD_eq_getLast?]
      simp only [hend, hlast]

/-! ### A comment that is lost -/

namespace Sample

/-- A character of a bare key. -/
def isBareKey (c : Char) : Bool := c.isAlphanum || c == '_' || c == '-'

/-- A line `key = "value"` with a bare key and no escapes. -/
def isAssignment (line : Line) : Bool :=
  match line.dropWhile isBareKey with
  | ' ' :: '=' :: ' ' :: '"' :: value =>
    line.head?.any isBareKey && value.getLast? == some '"' &&
      value.dropLast.all fun c => c.isAlphanum || c == '/' || c == '-'
  | _ => false

/-- A line `[name]` with a name of bare keys. -/
def isHeader (line : Line) : Bool :=
  match line with
  | '[' :: name => name.getLast? == some ']' && name.head?.any isBareKey &&
      name.dropLast.all fun c => isBareKey c || c == '.'
  | _ => false

/-- A line of a text that `tomllib` reads. -/
def isLine (line : Line) : Bool :=
  line.isEmpty || line.head? == some '#' || isHeader line || isAssignment line

/-- `tomllib.loads` on texts of such lines. -/
def tomllibLoads (text : String) : TomlAnswer :=
  if (splitLines text.toList).all isLine ∧
      (((splitLines text.toList).filter startsTable).map strip).Nodup then .accepted
  else .refused "Cannot declare"

theorem definesTablesOnce : DefinesTablesOnce tomllibLoads := by
  intro text haccepted _ header hheader
  have hnodup : (((splitLines text.toList).filter startsTable).map strip).Nodup := by
    by_contra h
    rw [tomllibLoads, if_neg fun hboth => h hboth.2] at haccepted
    cases haccepted
  have hstart : ∀ line, strip line = header → startsTable line = true := by
    rintro line rfl
    refine startsTable_of_header ?_
    simpa using hheader
  have hfilter : (splitLines text.toList).countP (fun line => strip line = header) =
      (((splitLines text.toList).filter startsTable).map strip).count header := by
    rw [List.count, List.countP_map, List.countP_filter]
    refine List.countP_congr fun line _ => ?_
    simp only [decide_eq_true_eq, Function.comp_apply, Bool.and_eq_true, beq_iff_eq]
    exact ⟨fun h => ⟨h, hstart line h⟩, And.left⟩
  rw [hfilter]
  exact List.nodup_iff_count.mp hnodup header

/-- A file in which a comment stands above the table after the one of the server. -/
def commented : String :=
  "[mcp_servers.pfsense]\ncommand = \"old\"\n\n# other server\n[mcp_servers.other]\ncommand = \"x\"\n"

/-- The same file with the comment in the other table. -/
def uncommented : String :=
  "[mcp_servers.pfsense]\ncommand = \"old\"\n\n[mcp_servers.other]\n# other server\ncommand = \"x\"\n"

end Sample

theorem keepsForeignLines_sample :
    KeepsForeignLines Sample.tomllibLoads (Bytes.encodeUtf8 Sample.uncommented) := by
  have hlines : ReadByLines Sample.tomllibLoads Sample.uncommented := by
    unfold ReadByLines
    decide +kernel
  have hremarks : KeepsRemarks (splitLines Sample.uncommented.toList) := by
    have hspans : sortedSpans (findTableSpan (splitLines Sample.uncommented.toList) serverHeader)
        (findTableSpan (splitLines Sample.uncommented.toList) envHeader) = [(0, 3)] := by
      decide +kernel
    rw [KeepsRemarks, hspans]
    decide +kernel
  exact (keepsForeignLines_iff Sample.tomllibLoads Sample.definesTablesOnce
    (Bytes.decodeUtf8_encodeUtf8 _) (by decide +kernel) hlines).mpr hremarks

/-- The comment above the next table goes with the table that is replaced. -/
theorem comment_above_table_lost :
    Sample.tomllibLoads Sample.commented = .accepted ∧
      ReadByLines Sample.tomllibLoads Sample.commented ∧
      "# other server".toList ∈ foreignLines (splitLines Sample.commented.toList) ∧
      "# other server".toList ∉ splitLines
        (mergedText Sample.commented.toList (tomlStanzaLines "new" [])) ∧
      ¬KeepsForeignLines Sample.tomllibLoads (Bytes.encodeUtf8 Sample.commented) := by
  have haccepted : Sample.tomllibLoads Sample.commented = .accepted := by decide +kernel
  have hmem : "# other server".toList ∈ foreignLines (splitLines Sample.commented.toList) := by
    decide +kernel
  have hnot : "# other server".toList ∉ splitLines
      (mergedText Sample.commented.toList (tomlStanzaLines "new" [])) := by decide +kernel
  refine ⟨haccepted, by unfold ReadByLines; decide +kernel, hmem, hnot, fun h => ?_⟩
  rw [keepsForeignLines_of_accepted (Bytes.decodeUtf8_encodeUtf8 _) haccepted] at h
  exact hnot ((h "new" []).subset hmem)

end ClientConfig

end Administration
