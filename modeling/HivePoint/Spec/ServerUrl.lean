import HivePoint.ForStd.List
import HivePoint.Spec.ServerPatterns

/-!
# The first server of an OpenAPI document

A document names its servers in a list, whose first entry has the `url` of the upstream. JSON is
parsed; of a text in block style only the lines are looked at. There the entry is found if its
`url` is its first key and stands on its line alone.

## Key results

- `extractServerUrl_json`: the first server of a JSON text
- `YamlText.extractServerUrl_of_direct`, `YamlText.direct_of_extractServerUrl`: the first server of
  a text in block style
- `extractServerUrl_written_iff`: how a document may be written
-/

namespace HivePoint

open Regex

/-! ### Texts in block style -/

/-- The lines, each with its newline. -/
def joinLines (lines : List Text) : Text := lines.flatMap (· ++ ['\n'])

/-- How a scalar or a key is quoted. -/
inductive Quotes where
  | plain | single | double
  deriving DecidableEq

def Quotes.mark : Quotes → Text
  | .plain => []
  | .single => [Char.ofNat 0x27]
  | .double => [JsonValue.quote]

/-- A scalar is written as it is, or between double quotes with escapes. -/
inductive UrlStyle where
  | raw (quotes : Quotes)
  | escaped
  deriving DecidableEq

def UrlStyle.mark : UrlStyle → Text
  | .raw quotes => quotes.mark
  | .escaped => Quotes.double.mark

/-- What the claimed documents have as the `url` of a server. -/
def IsServerUrl (url : Text) : Prop := url.trim ≠ [] ∧ ∀ a ∈ url, isValueChar a = true

/-- The text between the quotation marks stands for the url. The escapes are those of JSON. -/
inductive Spells : UrlStyle → Text → Text → Prop where
  | plain (url : Text) (htrim : url.trim = url) (hcomment : ¬[' ', '#'] <:+: url)
      (hkey : ¬[':', ' '] <:+: url) : Spells (.raw .plain) url url
  | single (url : Text) : Spells (.raw .single) url url
  | double (url : Text) (hescape : JsonValue.backslash ∉ url) : Spells (.raw .double) url url
  | escaped (url inner : Text) (hescape : JsonValue.backslash ∈ inner)
      (hparse : JsonValue.parseString (inner ++ [JsonValue.quote]) = some (url, [])) :
      Spells .escaped url inner

/-- What may follow a value on its line. -/
structure Trailing where
  blanks : Nat
  comment : Option Text
  comment_line : ∀ c ∈ comment, '\n' ∉ c

def Trailing.text (trailing : Trailing) : Text :=
  List.replicate trailing.blanks ' ' ++ (trailing.comment.map fun c => ' ' :: '#' :: c).getD []

/-- A text in block style with a list of servers, but for the url of the first one. -/
structure YamlText where
  /-- the lines before the key `servers` -/
  before : List Text
  serversQuotes : Quotes
  serversTrailing : Trailing
  /-- how far the list is indented -/
  indent : Nat
  /-- what stands between the `-` of the first entry and its key `url`: blanks, or keys of the
      entry with their values -/
  lead : Text
  urlQuotes : Quotes
  /-- one blank and so many more stand before the value -/
  urlGap : Nat
  style : UrlStyle
  trailing : Trailing
  /-- the lines after that of the url -/
  after : List Text
  before_line : ∀ line ∈ before, '\n' ∉ line ∧ ¬"servers:".toList <+: line
  /-- the text is no flow mapping -/
  before_block : (JsonValue.skip (joinLines before)).head? ≠ some JsonValue.openBrace
  lead_indented : Indented lead
  lead_blank : lead.getLast? = some ' '

namespace YamlText

def keyText (quotes : Quotes) (key : String) : Text :=
  quotes.mark ++ (key.toList ++ (quotes.mark ++ [':']))

/-- What stands between `servers:` and the key `url` of the first entry. -/
def head (l : YamlText) : Text :=
  l.serversTrailing.text ++ ('\n' :: (List.replicate l.indent ' ' ++ '-' :: l.lead))

/-- The text before the url. -/
def opening (l : YamlText) : Text :=
  joinLines l.before ++ (keyText l.serversQuotes "servers" ++ (l.head ++
    (keyText l.urlQuotes "url" ++ (List.replicate (l.urlGap + 1) ' ' ++ l.style.mark))))

/-- The text after the url. -/
def closing (l : YamlText) : Text :=
  l.style.mark ++ (l.trailing.text ++ l.after.flatMap ('\n' :: ·))

def text (l : YamlText) (inner : Text) : Text := l.opening ++ (inner ++ l.closing)

/-- The two keys are not quoted, the url has no escapes and, unless it is quoted, no comment after
    it, and it is the first value of a `- url:` in the list. -/
structure Direct (l : YamlText) : Prop where
  serversPlain : l.serversQuotes = .plain
  urlPlain : l.urlQuotes = .plain
  unescaped : l.style ≠ .escaped
  uncommented : l.style = .raw .plain → l.trailing.comment = none
  first : ∃ lead ws, l.head = lead ++ '-' :: ws ∧ (∀ a ∈ ws, Text.isSpace a = true) ∧
    ∀ t₁ t₂, lead = t₁ ++ t₂ → t₂ ≠ [] → ¬NamesServer (t₂ ++ ['-'])

end YamlText

/-! ### JSON -/

/-- A text that is not empty passes the filter. -/
private theorem filter_ne_nil {t : Text} (h : t ≠ []) : (some t).filter (· ≠ []) = some t := by
  rw [Option.filter_some, if_pos (decide_eq_true h)]

/-- What does not begin with a brace is no object. -/
private theorem extractServerUrlFromJson_eq_none {text : Text}
    (h : (JsonValue.skip text).head? ≠ some JsonValue.openBrace) :
    extractServerUrlFromJson text = none := by
  unfold extractServerUrlFromJson
  cases hparse : JsonValue.parse text with
  | none => rfl
  | some doc =>
    cases doc with
    | object members => exact absurd (JsonValue.parse_object hparse) h
    | _ => rfl

/-- The first server of a JSON text. -/
theorem extractServerUrl_json {text url : Text} {doc first : JsonValue} {servers : List JsonValue}
    (hparse : JsonValue.parse text = some doc)
    (hservers : doc.get? "servers".toList = some (.array (first :: servers)))
    (hfirst : first.get? "url".toList = some (.string url)) (hurl : url.trim ≠ []) :
    extractServerUrl (some text) = some url.trim := by
  have hjson : extractServerUrlFromJson text = some url.trim := by
    unfold extractServerUrlFromJson
    simp only [hparse, hservers, arrayItems, List.find?_cons, hfirst, Option.isSome_some, if_true,
      Option.bind_some, Option.bind_eq_bind, trimmedString, ne_eq, hurl, not_false_eq_true]
    rfl
  have htext : text ≠ [] := by
    rintro rfl
    exact nomatch hparse
  unfold extractServerUrl
  rw [filter_ne_nil htext]
  dsimp only
  rw [hjson, filter_ne_nil hurl]

/-- What is no object is searched as YAML. -/
private theorem extractServerUrl_yaml {text : Text} (htext : text ≠ [])
    (h : (JsonValue.skip text).head? ≠ some JsonValue.openBrace) :
    extractServerUrl (some text) = extractServerUrlFromYaml text := by
  unfold extractServerUrl
  rw [filter_ne_nil htext]
  dsimp only
  rw [extractServerUrlFromJson_eq_none h]
  rfl

/-! ### The lines before -/

section Before

variable {before : List Text}

/-- A line appended to lines is written behind them. -/
private theorem joinLines_concat (before : List Text) (line : Text) :
    joinLines (before ++ [line]) = joinLines before ++ line ++ ['\n'] := by
  unfold joinLines
  rw [List.flatMap_append, List.flatMap_cons, List.flatMap_nil, List.append_nil, List.append_assoc]

/-- No line before is the key `servers`. -/
private theorem length_le_of_serversLine
    (hbefore : ∀ line ∈ before, '\n' ∉ line ∧ ¬"servers:".toList <+: line) {rest u v : Text}
    (h : joinLines before ++ rest = u ++ ("servers:".toList ++ v))
    (hu : u = [] ∨ ∃ t, u = t ++ ['\n']) : (joinLines before).length ≤ u.length := by
  induction before generalizing u with
  | nil => exact Nat.zero_le _
  | cons line before ih =>
    obtain ⟨⟨hline, hkey⟩, hbefore⟩ := List.forall_mem_cons.mp hbefore
    have hjoin : joinLines (line :: before) = line ++ '\n' :: joinLines before := by
      unfold joinLines
      rw [List.flatMap_cons, List.append_assoc]
      rfl
    rw [hjoin, List.append_assoc, List.cons_append] at h
    rw [hjoin, List.length_append, List.length_cons]
    -- the key stands at the start of the text, or behind a line feed
    cases hu with
    | inl hu =>
      subst hu
      rw [List.nil_append] at h
      rcases List.append_eq_append_iff.mp h with ⟨m, hm, hrest⟩ | ⟨m, hm, -⟩
      · cases m with
        | nil => exact absurd ⟨[], by rw [hm, List.append_nil, List.append_nil]⟩ hkey
        | cons c m =>
          obtain ⟨rfl, -⟩ := List.cons.inj hrest
          exact absurd (hm ▸ List.mem_append_right line List.mem_cons_self) (by decide)
      · exact absurd ⟨m, hm.symm⟩ hkey
    | inr hu =>
      obtain ⟨t, rfl⟩ := hu
      rw [List.append_assoc, List.singleton_append] at h
      -- the rest of the text starts with a line again, to which the induction applies
      have hnext : ∀ m, joinLines before ++ rest = m ++ ("servers:".toList ++ v) →
          (m = [] ∨ ∃ t, m = t ++ ['\n']) → t.length = line.length + m.length →
          line.length + ((joinLines before).length + 1) ≤ (t ++ ['\n']).length := by
        intro m hm hbegin hlength
        have := ih hbefore hm hbegin
        rw [List.length_append, List.length_singleton]
        omega
      rcases List.append_eq_append_iff.mp h with ⟨m, hm, hrest⟩ | ⟨m, hm, hrest⟩
      · cases m with
        | nil =>
          refine hnext [] (List.cons.inj hrest).2 (.inl rfl) ?_
          rw [hm, List.append_nil, List.length_nil, Nat.add_zero]
        | cons c m =>
          obtain ⟨rfl, hrest'⟩ := List.cons.inj hrest
          refine hnext (m ++ ['\n']) ?_ (.inr ⟨m, rfl⟩) ?_
          · rw [List.append_assoc]
            exact hrest'
          · rw [hm, List.length_append, List.length_append, List.length_cons, List.length_singleton]
      · cases m with
        | nil =>
          refine hnext [] (List.cons.inj hrest).2.symm (.inl rfl) ?_
          rw [hm, List.append_nil, List.length_nil, Nat.add_zero]
        | cons c m =>
          obtain ⟨rfl, -⟩ := List.cons.inj hrest
          exact absurd (hm ▸ List.mem_append_right t List.mem_cons_self) hline

/-- The block that is found is that of the key `servers`. -/
private theorem matchGroup_serversPattern
    (hbefore : ∀ line ∈ before, '\n' ∉ line ∧ ¬"servers:".toList <+: line) (t : Text) :
    serversPattern.matchGroup (joinLines before ++ ("servers:".toList ++ t)) =
      some (blockOf (t.dropWhile Text.isSpace)) := by
  unfold matchGroup
  rcases List.eq_nil_or_concat before with hnil | ⟨lines, line, hconcat⟩
  · obtain ⟨c, hc, hgroup⟩ := serversPattern_run [] t (.inl ⟨rfl, rfl⟩)
    rw [hnil]
    show (serversPattern.search [] ([] ++ "servers:".toList ++ t)).bind _ = _
    rw [search_of_run hc]
    exact hgroup
  · -- the match begins with the newline before the key
    obtain ⟨c, hc, hgroup⟩ := serversPattern_run (joinLines lines ++ line).reverse t (.inr rfl)
    have hjoin : joinLines before = joinLines lines ++ line ++ ['\n'] := by
      rw [hconcat, List.concat_eq_append, joinLines_concat]
    have hsearch : serversPattern.search [] (joinLines before ++ ("servers:".toList ++ t)) =
        serversPattern.search (joinLines lines ++ line).reverse
          (['\n'] ++ "servers:".toList ++ t) := by
      rw [hjoin, List.append_assoc, search_append, List.append_nil, List.append_assoc]
      intro t₁ t₂ hsplit hne
      refine Option.eq_none_iff_forall_ne_some.mpr fun c' hc' => ?_
      obtain ⟨nl, ws, block, tail, hafter, hnl, -⟩ := exists_of_serversPattern hc'
      have htext : joinLines before ++ ("servers:".toList ++ t) =
          (t₁ ++ nl) ++ ("servers:".toList ++ (ws ++ (block ++ tail))) := by
        rw [hjoin, hsplit]
        simp only [List.append_assoc] at hafter ⊢
        rw [hafter]
      have hle : (joinLines before).length ≤ (t₁ ++ nl).length := by
        refine length_le_of_serversLine hbefore htext ?_
        rcases hnl with ⟨rfl, hnil⟩ | rfl
        · left
          simpa using hnil
        · exact .inr ⟨t₁, rfl⟩
      have hlength : nl.length ≤ 1 := by
        rcases hnl with ⟨rfl, -⟩ | rfl
        · exact Nat.zero_le _
        · exact Nat.le_refl _
      have hpos : 0 < t₂.length := List.length_pos_iff.mpr hne
      rw [hjoin, hsplit] at hle
      simp only [List.length_append, List.length_singleton] at hle
      omega
    rw [hsearch, search_of_run hc]
    exact hgroup

end Before

/-! ### The text of a layout -/

section Layout

/-- A scalar is plain, or has one quote around it. -/
private theorem Quotes.mark_cases (quotes : Quotes) :
    quotes = .plain ∨ ∃ a, isQuote a = true ∧ quotes.mark = [a] := by
  cases quotes with
  | plain => exact .inl rfl
  | single => exact .inr ⟨_, by decide, rfl⟩
  | double => exact .inr ⟨_, by decide, rfl⟩

/-- The marks of a scalar are marks. -/
private theorem Quotes.isMark (quotes : Quotes) : IsMark quotes.mark := by
  cases quotes.mark_cases with
  | inl h => exact .inl (by rw [h]; rfl)
  | inr h => exact .inr h

variable (l : YamlText)

/-- What follows the url on its line holds no line feed. -/
private theorem Trailing.newline_notMem (trailing : Trailing) : '\n' ∉ trailing.text := by
  unfold Trailing.text
  intro h
  rcases List.mem_append.mp h with h | h
  · exact absurd (List.eq_of_mem_replicate h) (by decide)
  · cases hcomment : trailing.comment with
    | none =>
      rw [hcomment] at h
      exact absurd h List.not_mem_nil
    | some c =>
      rw [hcomment] at h
      rcases List.mem_cons.mp h with h | h
      · exact absurd h (by decide)
      · rcases List.mem_cons.mp h with h | h
        · exact absurd h (by decide)
        · exact trailing.comment_line c (by rw [hcomment]; rfl) h

/-- The list is indented. -/
private theorem YamlText.head_indented : Indented l.head := by
  have hentry : Indented ('-' :: l.lead) := l.lead_indented.cons fun h => absurd h (by decide)
  have hlist : Indented (List.replicate l.indent ' ' ++ '-' :: l.lead) := by
    refine Indented.append (indented_of_notMem fun h => ?_) (fun h => ?_) hentry
    · exact absurd (List.eq_of_mem_replicate h) (by decide)
    · exact absurd (List.eq_of_mem_replicate (List.mem_of_getLast? h)) (by decide)
  refine Indented.append (indented_of_notMem l.serversTrailing.newline_notMem) (fun h => ?_) ?_
  · exact l.serversTrailing.newline_notMem (List.mem_of_getLast? h)
  · refine hlist.cons fun _ a ha => ?_
    cases hindent : l.indent with
    | zero =>
      rw [hindent] at ha
      exact .inr (Option.some.inj ha).symm
    | succ n =>
      rw [hindent] at ha
      obtain rfl : ' ' = a := Option.some.inj ha
      exact .inl rfl

/-- A space stands before the url. -/
private theorem YamlText.head_getLast? : l.head.getLast? = some ' ' := by
  have hsplit :
      l.head = (l.serversTrailing.text ++ ('\n' :: (List.replicate l.indent ' ' ++ ['-']))) ++
      l.lead := by
    unfold YamlText.head
    simp only [List.append_assoc, List.cons_append, List.nil_append]
  rw [hsplit, List.getLast?_append, l.lead_blank, Option.some_or]

/-- A key holds no line feed. -/
private theorem YamlText.newline_notMem_keyText (quotes : Quotes) {key : String}
    (hkey : '\n' ∉ key.toList) :
    '\n' ∉ YamlText.keyText quotes key := by
  unfold YamlText.keyText
  intro h
  have hmark : '\n' ∉ quotes.mark := by cases quotes <;> decide
  rcases List.mem_append.mp h with h | h
  · exact hmark h
  rcases List.mem_append.mp h with h | h
  · exact hkey h
  rcases List.mem_append.mp h with h | h
  · exact hmark h
  · exact absurd h (by decide)

/-- The marks of the url are marks. -/
private theorem UrlStyle.isMark (style : UrlStyle) : IsMark style.mark := by
  cases style with
  | raw quotes => exact quotes.isMark
  | escaped => exact Quotes.double.isMark

/-- A letter of the url is no part of what stands around it. -/
private theorem YamlText.opening_getLast? : l.opening.getLast? ≠ some 'z' := by
  unfold YamlText.opening
  simp only [List.getLast?_append, List.getLast?_replicate]
  rcases l.style.isMark with hmark | ⟨a, ha, hmark⟩
  · rw [hmark]
    simp
  · rw [hmark]
    rintro ⟨rfl⟩
    exact nomatch ha

/-- What closes the url is no letter. -/
private theorem YamlText.closing_head? : l.closing.head? ≠ some 'z' := by
  have htext : ∀ t : Text, t.head? ≠ some 'z' → (l.trailing.text ++ t).head? ≠ some 'z' := by
    intro t ht
    unfold Trailing.text
    cases l.trailing.blanks <;> cases l.trailing.comment <;> simp [List.replicate_succ, ht]
  have hafter : (l.after.flatMap ('\n' :: ·)).head? ≠ some 'z' := by
    cases l.after <;> simp
  unfold YamlText.closing
  rcases l.style.isMark with hmark | ⟨a, ha, hmark⟩
  · rw [hmark]
    exact htext _ hafter
  · rw [hmark]
    rintro ⟨rfl⟩
    exact nomatch ha

/-- The text of a layout is no JSON. -/
private theorem YamlText.extractServerUrl_text (inner : Text) :
    extractServerUrl (some (l.text inner)) = extractServerUrlFromYaml (l.text inner) := by
  have hkey : ∀ t, (JsonValue.skip (keyText l.serversQuotes "servers" ++ t)).head? ≠
      some JsonValue.openBrace := by
    intro t
    cases l.serversQuotes <;> exact fun h => absurd (Option.some.inj h) (by decide)
  refine extractServerUrl_yaml ?_ ?_
  -- the document holds the key, and is no object
  · unfold YamlText.text opening keyText
    simp
  · have hblock := l.before_block
    unfold YamlText.text opening
    rw [List.append_assoc]
    -- its first character that is no white space is in the lines before, or in the key
    generalize joinLines l.before = s at hblock ⊢
    unfold JsonValue.skip at hblock hkey ⊢
    rw [List.dropWhile_append]
    split
    · rw [List.append_assoc]
      exact hkey _
    · rename_i hne
      rw [List.head?_append]
      cases hhead : (s.dropWhile JsonValue.isWhitespace).head? with
      | none => exact absurd (List.isEmpty_iff.mpr (List.head?_eq_none_iff.mp hhead)) hne
      | some a => rwa [Option.some_or, ← hhead]

/-- Where a value is found, it is the server. -/
private theorem extractServerUrlFromYaml_of_found {text block value : Text}
    (hblock : serversPattern.matchGroup text = some block)
    (hvalue : serverUrlPattern.matchGroup block = some value) (hne : value ≠ []) :
    extractServerUrlFromYaml text = some value.trim := by
  unfold extractServerUrlFromYaml
  rw [hblock]
  dsimp only
  rw [Option.bind_some, hvalue, filter_ne_nil hne]

end Layout

/-! ### What is written directly is found -/

section Direct

variable {l : YamlText} {url inner : Text}

/-- Nothing but blanks follows an unquoted value in what is captured. -/
private theorem takeWhile_blockOf_of_blanks {n : Nat} {t : Text} (ht : ∀ a ∈ t.head?, a = '\n') :
    ∀ a ∈ (blockOf (List.replicate n ' ' ++ t)).takeWhile isValueChar, Text.isSpace a = true := by
  obtain ⟨tail, htail⟩ := exists_of_blockOf (List.replicate n ' ' ++ t)
  obtain ⟨rest, hrest⟩ := List.takeWhile_prefix (l := blockOf (List.replicate n ' ' ++ t))
    isValueChar
  have hall : ∀ a ∈ (blockOf (List.replicate n ' ' ++ t)).takeWhile isValueChar,
      isValueChar a = true := fun a ha => List.mem_takeWhile_imp ha
  generalize (blockOf (List.replicate n ' ' ++ t)).takeWhile isValueChar = w at hrest hall ⊢
  have hsplit : w ++ (rest ++ tail) = List.replicate n ' ' ++ t := by
    rw [← List.append_assoc, hrest, ← htail]
  intro a ha
  rcases List.append_eq_append_iff.mp hsplit with ⟨m, hm, -⟩ | ⟨m, hm, hrest'⟩
  · obtain rfl : a = ' ' := List.eq_of_mem_replicate (hm ▸ List.mem_append_left m ha)
    rfl
  · -- what goes beyond the blanks would begin with a newline
    cases m with
    | nil =>
      rw [hm, List.append_nil] at ha
      obtain rfl : a = ' ' := List.eq_of_mem_replicate ha
      rfl
    | cons b m =>
      obtain rfl : b = '\n' := ht b (by rw [hrest']; rfl)
      exact nomatch hall '\n' (by rw [hm]; simp)

/-- What is captured is the url, and maybe blanks. -/
private theorem exists_captured (quotes : Quotes) (trailing : Trailing) (after : List Text)
    (hurl : IsServerUrl url) (hcomment : quotes = .plain → trailing.comment = none) :
    ∃ s, (∀ a ∈ s, Text.isSpace a = true) ∧
      (url ++ (quotes.mark ++ blockOf (trailing.text ++ after.flatMap ('\n' :: ·)))).takeWhile
        isValueChar = url ++ s := by
  rw [List.takeWhile_append_of_pos hurl.2]
  refine ⟨_, ?_, rfl⟩
  -- a plain url is captured with the blanks behind it, a quoted one alone
  rcases quotes.mark_cases with rfl | ⟨a, ha, hmark⟩
  · have htext : trailing.text = List.replicate trailing.blanks ' ' := by
      unfold Trailing.text
      rw [hcomment rfl]
      exact List.append_nil _
    rw [htext]
    refine takeWhile_blockOf_of_blanks fun b hb => ?_
    cases after with
    | nil => exact nomatch hb
    | cons line after => exact (Option.some.inj hb).symm
  · have hnot : ¬isValueChar a = true := by
      rw [isValueChar, ha]
      simp
    rw [hmark, List.singleton_append, List.takeWhile_cons_of_neg hnot]
    exact fun b hb => absurd hb List.not_mem_nil

/-- A url that is not escaped is written as it is. -/
theorem Spells.raw {style : UrlStyle} (h : Spells style url inner) (hne : style ≠ .escaped) :
    ∃ quotes, style = .raw quotes ∧ inner = url ∧ (quotes = .plain → url.trim = url) := by
  cases h with
  | plain _ htrim => exact ⟨.plain, rfl, rfl, fun _ => htrim⟩
  | single => exact ⟨.single, rfl, rfl, fun h => nomatch h⟩
  | double => exact ⟨.double, rfl, rfl, fun h => nomatch h⟩
  | escaped => exact absurd rfl hne

/-- A scalar begins and ends in no blank. -/
private theorem Quotes.ends_of_scalar (quotes : Quotes) (hurl : IsServerUrl url)
    (hplain : quotes = .plain → url.trim = url) :
    (∀ t, ∀ x ∈ (quotes.mark ++ (url ++ t)).head?, Text.isSpace x = false) ∧
      ∃ b, (url ++ quotes.mark).getLast? = some b ∧ Text.isSpace b = false := by
  have hquote : ∀ a, isQuote a = true → Text.isSpace a = false := by
    intro a ha
    cases hspace : Text.isSpace a with
    | false => rfl
    | true =>
      simp only [isQuote, List.contains_eq_mem, List.mem_cons, List.not_mem_nil, or_false,
        decide_eq_true_eq] at ha
      unfold Text.isSpace at hspace
      rcases ha with ha | ha <;> rw [ha] at hspace <;> exact nomatch hspace
  have hne : url ≠ [] := by
    rintro rfl
    exact hurl.1 rfl
  -- a plain scalar begins and ends as the trimmed url does, a quoted one with its quotes
  rcases quotes.mark_cases with rfl | ⟨a, ha, hmark⟩
  · have htrim := hplain rfl
    obtain ⟨a, u, rfl⟩ := List.exists_cons_of_ne_nil hne
    constructor
    · intro t x hx
      obtain rfl : a = x := Option.some.inj hx
      exact Text.isSpace_of_head?_trim (t := a :: u) (by rw [htrim]; rfl)
    · obtain ⟨b, hb⟩ := Option.isSome_iff_exists.mp (List.getLast?_isSome.mpr hne)
      refine ⟨b, ?_, Text.isSpace_of_getLast?_trim (t := a :: u) (by rw [htrim, hb])⟩
      rw [show Quotes.plain.mark = [] from rfl, List.append_nil, hb]
  · rw [hmark]
    constructor
    · intro t x hx
      obtain rfl : a = x := Option.some.inj hx
      exact hquote a ha
    · exact ⟨a, List.getLast?_concat, hquote a ha⟩

/-- The blanks at the beginning end before a `-`. -/
private theorem dropWhile_append_dash (lead t : Text) :
    (lead ++ '-' :: t).dropWhile Text.isSpace = lead.dropWhile Text.isSpace ++ '-' :: t := by
  rw [List.dropWhile_append]
  split
  · rename_i hempty
    rw [List.isEmpty_iff.mp hempty]
    rfl
  · rfl

/-- What is written directly is found. -/
theorem YamlText.extractServerUrl_of_direct (hdirect : l.Direct) (hurl : IsServerUrl url)
    (hspells : Spells l.style url inner) :
    extractServerUrl (some (l.text inner)) = some url.trim := by
  obtain ⟨quotes, hstyle, rfl, hplain⟩ := hspells.raw hdirect.unescaped
  obtain ⟨lead, ws, hhead, hws, hfirst⟩ := hdirect.first
  obtain ⟨hstop, b, hlast, hb⟩ := quotes.ends_of_scalar hurl hplain
  obtain ⟨s, hs, hcaptured⟩ := exists_captured quotes l.trailing l.after hurl
    (fun h => hdirect.uncommented (by rw [hstyle, h]))
  -- the entry, from its `-` to the end of the url
  obtain ⟨entry, hentry⟩ : ∃ entry, entry = '-' :: (ws ++ ("url:".toList ++
    (List.replicate (l.urlGap + 1) ' ' ++ (quotes.mark ++ (inner ++ quotes.mark))))) := ⟨_, rfl⟩
  have htext : l.text inner = joinLines l.before ++ ("servers:".toList ++
      (lead ++ (entry ++ (l.trailing.text ++ l.after.flatMap ('\n' :: ·))))) := by
    unfold YamlText.text opening closing keyText
    rw [hdirect.serversPlain, hdirect.urlPlain, hstyle, hhead, hentry]
    simp [Quotes.mark, UrlStyle.mark]
  have hindented : Indented (lead.dropWhile Text.isSpace ++ entry) := by
    have hline : '\n' ∉ "url:".toList ++ (List.replicate (l.urlGap + 1) ' ' ++ (quotes.mark ++
        (inner ++ quotes.mark))) := by
      intro h
      have hmark : '\n' ∉ quotes.mark := by cases quotes <;> decide
      rcases List.mem_append.mp h with h | h
      · exact absurd h (by decide)
      rcases List.mem_append.mp h with h | h
      · exact absurd (List.eq_of_mem_replicate h) (by decide)
      rcases List.mem_append.mp h with h | h
      · exact hmark h
      rcases List.mem_append.mp h with h | h
      · exact nomatch hurl.2 '\n' h
      · exact hmark h
    have hall := l.head_indented.append (by rw [l.head_getLast?]; decide) (indented_of_notMem hline)
    rw [hhead, List.append_assoc, List.cons_append, ← hentry] at hall
    rw [hentry, ← dropWhile_append_dash, ← hentry]
    exact hall.suffix (List.dropWhile_suffix _)
  have hentryLast : (lead.dropWhile Text.isSpace ++ entry).getLast? = some b := by
    have hsplit : lead.dropWhile Text.isSpace ++ entry =
        (lead.dropWhile Text.isSpace ++ '-' :: (ws ++
        ("url:".toList ++ (List.replicate (l.urlGap + 1) ' ' ++ quotes.mark)))) ++
          (inner ++ quotes.mark) := by
      rw [hentry]
      simp only [List.append_assoc, List.cons_append]
    rw [hsplit, List.getLast?_append, hlast, Option.some_or]
  have hdrop : ∀ t, (lead ++ (entry ++ t)).dropWhile Text.isSpace =
      lead.dropWhile Text.isSpace ++ (entry ++ t) := by
    intro t
    rw [hentry]
    exact dropWhile_append_dash lead _
  have hblock : serversPattern.matchGroup (l.text inner) = some (lead.dropWhile Text.isSpace ++
      (entry ++ blockOf (l.trailing.text ++ l.after.flatMap ('\n' :: ·)))) := by
    rw [htext, matchGroup_serversPattern l.before_line, hdrop, ← List.append_assoc,
      blockOf_indented hindented hentryLast hb, List.append_assoc]
  have hne : inner ≠ [] := by
    rintro rfl
    exact hurl.1 rfl
  have hvalue : serverUrlPattern.matchGroup (lead.dropWhile Text.isSpace ++
      (entry ++ blockOf (l.trailing.text ++ l.after.flatMap ('\n' :: ·)))) = some (inner ++ s) := by
    have hlead : ∀ t₁ t₂, lead.dropWhile Text.isSpace = t₁ ++ t₂ → t₂ ≠ [] →
        ¬NamesServer (t₂ ++ ['-']) := by
      intro t₁ t₂ hsplit
      refine hfirst (lead.takeWhile Text.isSpace ++ t₁) t₂ ?_
      rw [List.append_assoc, ← hsplit, List.takeWhile_append_dropWhile]
    have hblanks : ∀ x ∈ List.replicate (l.urlGap + 1) ' ', Text.isSpace x = true := by
      intro x hx
      obtain rfl := List.eq_of_mem_replicate hx
      rfl
    have hfound := matchGroup_serverUrlPattern hlead hws hblanks quotes.isMark (hstop _)
      (by rw [hcaptured]; simp [hne])
    rw [hcaptured] at hfound
    rw [hentry, ← hfound]
    simp only [List.append_assoc, List.cons_append]
  rw [l.extractServerUrl_text, extractServerUrlFromYaml_of_found hblock hvalue (by simp [hne]),
    Text.trim_append_of_space hs]

end Direct

/-! ### What is found is written directly -/

section Found

variable {l : YamlText}

/-- Without a colon in it, what is found is a value of the servers. -/
private theorem exists_of_extractServerUrlFromYaml {text url : Text}
    (h : extractServerUrlFromYaml text = some url) (hcolon : ':' ∉ url) :
    ∃ block value, serversPattern.matchGroup text = some block ∧
      serverUrlPattern.matchGroup block = some value ∧ url = value.trim := by
  unfold extractServerUrlFromYaml at h
  dsimp only at h
  split at h
  · rename_i value hfilter
    obtain ⟨hbind, -⟩ := Option.filter_eq_some_iff.mp hfilter
    obtain ⟨block, hblock, hvalue⟩ := Option.bind_eq_some_iff.mp hbind
    exact ⟨block, value, hblock, hvalue, (Option.some.inj h).symm⟩
  · split at h
    · exact nomatch h
    · refine absurd ?_ hcolon
      rw [← Option.some.inj h]
      simp

/-- The url stands after a key that is not quoted, and that stands after a `-`. -/
private theorem YamlText.plain_of_opening {u ws lead ws₁ ws₂ q s : Text}
    (h : l.opening = u ++ ("servers:".toList ++ (ws ++ (lead ++ '-' ::
      (ws₁ ++ ("url:".toList ++ (ws₂ ++ (q ++ s))))))))
    (hu : u = [] ∨ ∃ t, u = t ++ ['\n']) (hws₂ : ∀ x ∈ ws₂, Text.isSpace x = true) (hq : IsMark q)
    (hs : ∀ x ∈ s, Text.isSpace x = true) :
    l.serversQuotes = .plain ∧ l.urlQuotes = .plain ∧ l.head = ws ++ (lead ++ '-' :: ws₁) := by
  have hcolonMark : ∀ q, IsMark q → ':' ∉ q := by
    intro q hq hmem
    cases hq with
    | inl hq => exact absurd (hq ▸ hmem) List.not_mem_nil
    | inr hq =>
      obtain ⟨a, ha, rfl⟩ := hq
      obtain rfl := List.mem_singleton.mp hmem
      exact nomatch ha
  have hsplit : (joinLines l.before ++ (keyText l.serversQuotes "servers" ++ (l.head ++
      (l.urlQuotes.mark ++ ("url".toList ++ l.urlQuotes.mark))))) ++
        ':' :: (List.replicate (l.urlGap + 1) ' ' ++ l.style.mark) =
      (u ++ ("servers:".toList ++ (ws ++ (lead ++ '-' :: (ws₁ ++ "url".toList))))) ++
        ':' :: (ws₂ ++ (q ++ s)) := by
    unfold YamlText.opening at h
    simp only [keyText, List.append_assoc, List.cons_append, List.nil_append] at h ⊢
    rw [h]
    rfl
  -- the last colon is that of the key
  have hkey : joinLines l.before ++ (keyText l.serversQuotes "servers" ++ (l.head ++
      (l.urlQuotes.mark ++ ("url".toList ++ l.urlQuotes.mark)))) =
        u ++ ("servers:".toList ++ (ws ++ (lead ++ '-' :: (ws₁ ++ "url".toList)))) := by
    refine (List.append_cons_inj_of_notMem_right hsplit ?_ ?_).1
    · intro hmem
      rcases List.mem_append.mp hmem with hmem | hmem
      · exact absurd (List.eq_of_mem_replicate hmem) (by decide)
      · exact hcolonMark l.style.mark l.style.isMark hmem
    · intro hmem
      rcases List.mem_append.mp hmem with hmem | hmem
      · exact nomatch hws₂ ':' hmem
      rcases List.mem_append.mp hmem with hmem | hmem
      · exact hcolonMark q hq hmem
      · exact nomatch hs ':' hmem
  have hurl : l.urlQuotes = .plain := by
    refine l.urlQuotes.mark_cases.resolve_right ?_
    rintro ⟨a, ha, hmark⟩
    have hlast : (joinLines l.before ++ (keyText l.serversQuotes "servers" ++ (l.head ++
        ([a] ++ "url".toList)))) ++ [a] =
          (u ++ ("servers:".toList ++ (ws ++ (lead ++ '-' :: (ws₁ ++ "ur".toList))))) ++ ['l'] := by
      rw [hmark] at hkey
      simpa using hkey
    obtain rfl : a = 'l' := (List.cons.inj (List.append_inj' hlast rfl).2).1
    exact nomatch ha
  rw [hurl] at hkey
  have hrest : joinLines l.before ++ (keyText l.serversQuotes "servers" ++ l.head) =
      u ++ ("servers:".toList ++ (ws ++ (lead ++ '-' :: ws₁))) := by
    have hurlKey : (joinLines l.before ++ (keyText l.serversQuotes "servers" ++ l.head)) ++
        "url".toList =
          (u ++ ("servers:".toList ++ (ws ++ (lead ++ '-' :: ws₁)))) ++ "url".toList := by
      simpa [Quotes.mark] using hkey
    exact List.append_cancel_right hurlKey
  obtain ⟨m, rfl⟩ : joinLines l.before <+: u :=
    List.prefix_of_prefix_length_le (List.prefix_append _ _)
      (hrest ▸ List.prefix_append u _) (length_le_of_serversLine l.before_line hrest hu)
  rw [List.append_assoc] at hrest
  replace hrest := List.append_cancel_left hrest
  have hm : m = [] := by
    refine Decidable.byContradiction fun hne => ?_
    -- `servers:` would begin a line in the list
    obtain ⟨t, rfl⟩ : ∃ t, m = t ++ ['\n'] := by
      rcases hu with hnil | ⟨t, ht⟩
      · exact absurd (List.append_eq_nil_iff.mp hnil).2 hne
      · have hlast : m.getLast? = some '\n' := by
          have hboth := congrArg List.getLast? ht
          rw [List.getLast?_concat, List.getLast?_append] at hboth
          cases hgetLast : m.getLast? with
          | none => exact absurd (List.getLast?_eq_none_iff.mp hgetLast) hne
          | some a => rwa [hgetLast, Option.some_or] at hboth
        exact ⟨m.dropLast, (List.dropLast_append_getLast? _ hlast).symm⟩
    have hindented : Indented (keyText l.serversQuotes "servers" ++ l.head) := by
      refine Indented.append (indented_of_notMem ?_) ?_ l.head_indented
      · exact newline_notMem_keyText _ (by decide)
      · exact fun h => newline_notMem_keyText _ (by decide) (List.mem_of_getLast? h)
    have hbegin := hindented 's' ("ervers:".toList ++ (ws ++ (lead ++ '-' :: ws₁)))
      ⟨t, by rw [hrest, List.append_assoc]; rfl⟩
    exact absurd hbegin (by decide)
  subst hm
  rw [List.nil_append] at hrest
  have hservers : l.serversQuotes = .plain := by
    refine l.serversQuotes.mark_cases.resolve_right ?_
    rintro ⟨a, ha, hmark⟩
    unfold YamlText.keyText at hrest
    rw [hmark] at hrest
    obtain rfl : a = 's' := (List.cons.inj hrest).1
    exact nomatch ha
  rw [hservers] at hrest
  have hhead : "servers:".toList ++ l.head = "servers:".toList ++ (ws ++ (lead ++ '-' :: ws₁)) :=
    hrest
  exact ⟨hservers, hurl, List.append_cancel_left hhead⟩

/-- A comment after an unquoted value is captured with it. -/
private theorem YamlText.uncommented_of_closing {s r tail : Text} (h : l.closing = s ++ (r ++ tail))
    (hs : ∀ x ∈ s, Text.isSpace x = true) (hr : ∀ x ∈ r.head?, isValueChar x = false)
    (hends : endsBlock tail = true) : l.style = .raw .plain → l.trailing.comment = none := by
  intro hstyle
  refine Option.eq_none_iff_forall_ne_some.mpr fun c hc => ?_
  obtain ⟨blanks, rest, hblanks, heq⟩ : ∃ blanks rest, (∀ x ∈ blanks, x = ' ') ∧
      l.closing = blanks ++ '#' :: rest := by
    refine ⟨List.replicate (l.trailing.blanks + 1) ' ', c ++ l.after.flatMap ('\n' :: ·),
      fun x hx => List.eq_of_mem_replicate hx, ?_⟩
    unfold YamlText.closing Trailing.text
    rw [hstyle, hc, List.replicate_succ']
    simp [UrlStyle.mark, Quotes.mark]
  -- what is not trimmed away begins with blanks and the comment
  obtain ⟨m, hm, hrest⟩ : ∃ m, (∀ x ∈ m, x = ' ') ∧ r ++ tail = m ++ '#' :: rest := by
    rw [heq] at h
    rcases List.append_eq_append_iff.mp h with ⟨m, hm, hrest⟩ | ⟨m, hm, hrest⟩
    · cases m with
      | nil => exact ⟨[], fun x hx => absurd hx List.not_mem_nil, hrest.symm⟩
      | cons x m =>
        obtain ⟨rfl, -⟩ := List.cons.inj hrest
        exact nomatch hs '#' (by rw [hm]; simp)
    · exact ⟨m, fun x hx => hblanks x (by rw [hm]; exact List.mem_append_right s hx), hrest⟩
  have hhead : ∀ x, (m ++ '#' :: rest).head? = some x → x = ' ' ∨ x = '#' := by
    intro x hx
    cases m with
    | nil => exact .inr (Option.some.inj hx).symm
    | cons y m =>
      obtain rfl : y = x := Option.some.inj hx
      exact .inl (hm y List.mem_cons_self)
  cases r with
  | cons x r =>
    have hx := hr x rfl
    rcases hhead x (by rw [← hrest]; rfl) with rfl | rfl <;> exact nomatch hx
  | nil =>
    rw [List.nil_append] at hrest
    subst hrest
    rcases Bool.or_eq_true_iff.mp hends with hkey | hblank
    · obtain ⟨a, xs, t, heq', -⟩ := startsKey_iff.mp hkey
      rcases hhead '\n' (by rw [heq']; rfl) with h | h <;> exact absurd h (by decide)
    · exact nomatch List.all_eq_true.mp hblank '#' (by simp)

/-- A long url, of one letter. -/
def longUrl (n : Nat) : Text := List.replicate n 'z'

/-- A long url is a url, and has no blanks around it. -/
private theorem isServerUrl_longUrl (n : Nat) : IsServerUrl (longUrl (n + 1)) ∧
    Text.trim (longUrl (n + 1)) = longUrl (n + 1) := by
  have htrim : Text.trim (longUrl (n + 1)) = longUrl (n + 1) := by
    refine Text.trim_of_no_space fun a ha => ?_
    obtain rfl : a = 'z' := List.eq_of_mem_replicate ha
    decide
  refine ⟨⟨?_, fun a ha => ?_⟩, htrim⟩
  · rw [htrim]
    exact List.cons_ne_nil _ _
  · obtain rfl : a = 'z' := List.eq_of_mem_replicate ha
    decide

/-- The escape of the letter, and what follows it. -/
private theorem parseString_longUrl (n : Nat) :
    JsonValue.parseString ("\\u007a".toList ++ longUrl n ++ [JsonValue.quote]) =
      some (longUrl (n + 1), []) := by
  -- the characters behind the escape, as code units and as text
  have hunits : ∀ n, JsonValue.parseUnits (longUrl n ++ [JsonValue.quote]) =
      some (List.replicate n 0x7a, []) := by
    intro n
    induction n with
    | zero => rfl
    | succ n ih =>
      show JsonValue.parseUnits ('z' :: (longUrl n ++ [JsonValue.quote])) = _
      rw [JsonValue.parseUnits.eq_def]
      simp only [ih]
      rfl
  have hchars : ∀ n, JsonValue.ofUtf16 (List.replicate (n + 1) 0x7a) = longUrl (n + 1) := by
    intro n
    induction n with
    | zero => rfl
    | succ n ih =>
      show JsonValue.ofUtf16 (0x7a :: 0x7a :: List.replicate n 0x7a) = 'z' :: longUrl (n + 1)
      rw [← ih]
      rfl
  have hescape : JsonValue.parseUnits ("\\u007a".toList ++ longUrl n ++ [JsonValue.quote]) =
      some (0x7a :: List.replicate n 0x7a, []) := by
    rw [List.append_assoc]
    show JsonValue.parseUnits ('\\' :: 'u' :: '0' :: '0' :: '7' :: 'a' ::
      (longUrl n ++ [JsonValue.quote])) = _
    rw [JsonValue.parseUnits.eq_def]
    simp only [hunits]
    rfl
  unfold JsonValue.parseString
  rw [hescape]
  exact congrArg (fun t => some (t, [])) (hchars n)

/-- Every style can spell it. -/
private theorem exists_spelling (style : UrlStyle) (n : Nat) : ∃ escape rest,
    Spells style (longUrl (n + 1)) (escape ++ longUrl rest) ∧
    (style ≠ .escaped ∧ escape = [] ∧ rest = n + 1 ∨ escape = "\\u007a".toList ∧ rest = n) := by
  have hpair : ∀ a b, b ≠ 'z' → ¬[a, b] <:+: longUrl (n + 1) := by
    intro a b hb h
    exact hb (List.eq_of_mem_replicate (h.subset (List.mem_cons_of_mem a List.mem_cons_self)))
  have hraw : ∀ quotes, Spells (.raw quotes) (longUrl (n + 1)) (longUrl (n + 1)) := by
    intro quotes
    cases quotes with
    | plain =>
      exact .plain _ (isServerUrl_longUrl n).2 (hpair _ _ (by decide)) (hpair _ _ (by decide))
    | single => exact .single _
    | double => exact .double _ fun h => absurd (List.eq_of_mem_replicate h) (by decide)
  cases style with
  | raw quotes => exact ⟨[], n + 1, hraw quotes, .inl ⟨by simp, rfl, rfl⟩⟩
  | escaped =>
    exact ⟨"\\u007a".toList, n, .escaped _ _ (by simp [JsonValue.backslash])
      (parseString_longUrl n),
      .inr ⟨rfl, rfl⟩⟩

/-- What is found, whatever the url, is written directly. -/
theorem YamlText.direct_of_extractServerUrl
    (h : ∀ url inner, IsServerUrl url → Spells l.style url inner →
      extractServerUrl (some (l.text inner)) = some url.trim) : l.Direct := by
  -- a url that is longer than all else
  obtain ⟨n, hn⟩ : ∃ n, n = l.opening.length + 6 + l.closing.length := ⟨_, rfl⟩
  obtain ⟨escape, rest, hspells, hrest⟩ := exists_spelling l.style n
  obtain ⟨hurl, htrim⟩ := isServerUrl_longUrl n
  have hfound := h _ _ hurl hspells
  rw [l.extractServerUrl_text, htrim] at hfound
  obtain ⟨block, value, hblock, hvalue, hlong⟩ := exists_of_extractServerUrlFromYaml hfound
    fun hmem => absurd (List.eq_of_mem_replicate hmem) (by decide)
  obtain ⟨u, ws, tail, htext, hu, hws, hends⟩ := exists_of_matchGroup_serversPattern hblock
  obtain ⟨lead, ws₁, ws₂, q, r, rfl, hws₁, hws₂, hq, rfl, hbefore⟩ :=
    exists_of_matchGroup_serverUrlPattern hvalue
  obtain ⟨s₁, s₂, hcaptured, hs₁, hs₂⟩ := Text.exists_of_trim (r.takeWhile isValueChar)
  rw [← hlong] at hcaptured
  have hr : r = s₁ ++ (longUrl (n + 1) ++ (s₂ ++ r.dropWhile isValueChar)) := by
    conv_lhs => rw [← List.takeWhile_append_dropWhile (p := isValueChar) (l := r), hcaptured]
    simp only [List.append_assoc]
  -- the long url stands in one place only
  have hplace : (l.opening ++ escape) ++ (List.replicate rest 'z' ++ l.closing) =
      (u ++ ("servers:".toList ++ (ws ++ (lead ++ '-' :: (ws₁ ++ ("url:".toList ++
        (ws₂ ++ (q ++ s₁)))))))) ++
          (List.replicate (n + 1) 'z' ++ (s₂ ++ (r.dropWhile isValueChar ++ tail))) := by
    rw [hr] at htext
    unfold YamlText.text longUrl at htext
    simpa only [List.append_assoc, List.cons_append] using htext
  have hescape : escape.length ≤ 6 := by
    rcases hrest with ⟨-, rfl, -⟩ | ⟨rfl, -⟩ <;> decide
  have hopening : (l.opening ++ escape).getLast? ≠ some 'z' := by
    rcases hrest with ⟨-, rfl, -⟩ | ⟨rfl, -⟩
    · rw [List.append_nil]
      exact l.opening_getLast?
    · rw [List.getLast?_append, show "\\u007a".toList.getLast? = some 'a' from rfl, Option.some_or]
      decide
  obtain ⟨hle, heq⟩ := List.eq_of_replicate_middle hplace hopening l.closing_head? (by
    rw [List.length_append]
    omega)
  obtain ⟨hunescaped, rfl, rfl⟩ : l.style ≠ .escaped ∧ escape = [] ∧ rest = n + 1 := by
    refine hrest.resolve_right ?_
    rintro ⟨-, rfl⟩
    omega
  obtain ⟨hhead, htail⟩ := heq rfl
  rw [List.append_nil] at hhead
  obtain ⟨hservers, hkey, hfirst⟩ := plain_of_opening hhead hu hws₂ hq hs₁
  refine ⟨hservers, hkey, hunescaped, ?_, ws ++ lead, ws₁, ?_, hws₁, ?_⟩
  · refine uncommented_of_closing htail hs₂ (fun x hx => ?_) hends
    have hnot := List.head?_dropWhile_not isValueChar r
    rw [Option.mem_def.mp hx] at hnot
    simpa using hnot
  · rw [hfirst, List.append_assoc]
  · intro t₁ t₂ hsplit hne
    rcases List.append_eq_append_iff.mp hsplit with ⟨m, -, hm⟩ | ⟨m, hm, rfl⟩
    · exact hbefore m t₂ hm hne
    · cases m with
      | nil => exact hbefore [] lead rfl hne
      | cons x m =>
        -- a blank begins no entry
        rintro ⟨_, _, _, _, _, heq', -⟩
        obtain rfl : x = '-' := (List.cons.inj heq').1
        exact nomatch hws '-' (by rw [hm]; simp)

/-- A document is read the same however it is written, if what is written in block style is
    written directly. -/
theorem extractServerUrl_written_iff (l : YamlText) :
    (∀ text doc first servers url, JsonValue.parse text = some doc →
      doc.get? "servers".toList = some (.array (first :: servers)) →
      first.get? "url".toList = some (.string url) → IsServerUrl url →
      extractServerUrl (some text) = some url.trim) ∧
    ((∀ url inner, IsServerUrl url → Spells l.style url inner →
      extractServerUrl (some (l.text inner)) = some url.trim) ↔ l.Direct) := by
  constructor
  · intro text doc first servers url hparse hservers hfirst hurl
    exact extractServerUrl_json hparse hservers hfirst hurl.1
  · constructor
    · exact l.direct_of_extractServerUrl
    · exact fun hdirect url inner hurl hspells => l.extractServerUrl_of_direct hdirect hurl hspells

/-- The url is found where it is the first key of its entry and no comment stands before. -/
private theorem YamlText.first_of_blank (hcomment : l.serversTrailing.comment = none)
    (hlead : ∀ a ∈ l.lead, Text.isSpace a = true) :
    ∃ lead ws, l.head = lead ++ '-' :: ws ∧ (∀ a ∈ ws, Text.isSpace a = true) ∧
      ∀ t₁ t₂, lead = t₁ ++ t₂ → t₂ ≠ [] → ¬NamesServer (t₂ ++ ['-']) := by
  refine ⟨l.serversTrailing.text ++ '\n' :: List.replicate l.indent ' ', l.lead, ?_, hlead, ?_⟩
  · unfold YamlText.head
    simp only [List.append_assoc, List.cons_append]
  · have hdash : '-' ∉ l.serversTrailing.text ++ '\n' :: List.replicate l.indent ' ' := by
      unfold Trailing.text
      rw [hcomment]
      simp [List.mem_replicate]
    intro t₁ t₂ hsplit hne
    obtain ⟨x, t, rfl⟩ := List.exists_cons_of_ne_nil hne
    rintro ⟨_, _, _, _, _, heq, -⟩
    obtain rfl : x = '-' := (List.cons.inj heq).1
    exact hdash (by rw [hsplit]; simp)

end Found

/-! ### A comment after the url -/

/-- One server, whose url is followed by a comment. -/
def commentedText (quotes : Quotes) : YamlText where
  before := ["openapi: 3.0.0".toList]
  serversQuotes := .plain
  serversTrailing := ⟨0, none, fun _ h => nomatch h⟩
  indent := 2
  lead := [' ']
  urlQuotes := .plain
  urlGap := 0
  style := .raw quotes
  trailing := ⟨0, some " prod".toList, fun c hc => by obtain rfl := Option.some.inj hc; decide⟩
  after := ["paths:".toList]
  before_line := by decide
  before_block := by decide
  lead_indented := indented_of_notMem (by decide)
  lead_blank := rfl

/-- A JSON text of one server. -/
def jsonText : Text := "\x7b\"servers\":[\x7b\"url\":\"https://a.b/v1\"\x7d]\x7d".toList

/-- The value that was read is an object of one server with this url. -/
private def isServerOf (url : Text) : Option JsonValue → Bool
  | some (.object [(servers, .array [.object [(key, .string value)]])]) =>
    servers = "servers".toList && key = "url".toList && value = url
  | _ => false

/-- What the sample document parses to. -/
private theorem parse_jsonText : JsonValue.parse jsonText = some (.object [("servers".toList,
    .array [.object [("url".toList, .string "https://a.b/v1".toList)]])]) := by
  have h : isServerOf "https://a.b/v1".toList (JsonValue.parse jsonText) = true := by decide +kernel
  unfold isServerOf at h
  split at h
  · rename_i servers key url hparse
    simp only [Bool.and_eq_true, decide_eq_true_eq] at h
    obtain ⟨⟨rfl, rfl⟩, rfl⟩ := h
    exact hparse
  · cases h

/-- In quotes the url is found, as in JSON. -/
theorem extractServerUrl_written_iff_quoted :
    extractServerUrl (some jsonText) = some "https://a.b/v1".toList ∧
    extractServerUrl (some ((commentedText .double).text "https://a.b/v1".toList)) =
      some "https://a.b/v1".toList := by
  have hurl : IsServerUrl "https://a.b/v1".toList :=
    ⟨by decide +kernel, List.all_eq_true.mp (by decide +kernel)⟩
  have htrim : Text.trim "https://a.b/v1".toList = "https://a.b/v1".toList := by decide +kernel
  have hwritten := extractServerUrl_written_iff (commentedText .double)
  rw [← htrim]
  constructor
  · exact hwritten.1 _ _ _ _ _ parse_jsonText rfl rfl hurl
  · have hdirect : (commentedText .double).Direct :=
      ⟨rfl, rfl, by decide, (fun h => nomatch h),
        YamlText.first_of_blank rfl (List.all_eq_true.mp (by decide))⟩
    exact hwritten.2.mpr hdirect _ _ hurl (.double _ (by decide))

/-- Without quotes the comment becomes part of the url. -/
theorem not_extractServerUrl_written :
    ¬∀ (l : YamlText) (url inner : Text), IsServerUrl url → Spells l.style url inner →
      extractServerUrl (some (l.text inner)) = some url.trim := by
  intro h
  have hurl : IsServerUrl "https://a.b/v1".toList :=
    ⟨by decide +kernel, List.all_eq_true.mp (by decide +kernel)⟩
  have hspells : Spells (commentedText .plain).style "https://a.b/v1".toList
      "https://a.b/v1".toList :=
    .plain _ (by decide +kernel) (by decide +kernel) (by decide +kernel)
  have hfound := h (commentedText .plain) _ _ hurl hspells
  exact absurd hfound (by decide +kernel)

end HivePoint
