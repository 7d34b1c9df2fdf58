import HivePoint.ForStd.Text

/-!
# The text exposition format

A page of metrics as a scraper reads it: one line for each sample, with the name of its metric,
its labels and its value, between lines of comment. A label value stands between quotes; a quote,
a backslash and a line feed in it are escaped. What a well-formed page says is read back from it,
whatever characters the label values have.

## Key results

- `readQuoted_escape`: an escaped label value ends at the quote after it.
- `parseSample_sampleLine`: the line of a sample is read as that sample.
- `parse_page`: a page of such lines and of comments is read as the samples, in their order.
-/

namespace Exposition

/-- The double quote. -/
def quote : Char := Char.ofNat 0x22

structure Sample where
  name : Text
  labels : List (Text × Text)
  value : Text
  deriving DecidableEq

/-! ### Writing -/

def escapeChar (a : Char) : Text :=
  if a = '\\' then ['\\', '\\']
  else if a = '\n' then ['\\', 'n']
  else if a = quote then ['\\', quote]
  else [a]

def escape (t : Text) : Text := t.flatMap escapeChar

def labelText (label : Text × Text) : Text := label.1 ++ '=' :: quote :: escape label.2 ++ [quote]

/-- The labels of a sample; none are not even put into braces. -/
def labelsText (labels : List (Text × Text)) : Text :=
  if labels = [] then []
  else '{' :: List.intercalate [','] (labels.map labelText) ++ ['}']

def sampleLine (sample : Sample) : Text :=
  sample.name ++ labelsText sample.labels ++ ' ' :: sample.value

/-! ### Reading -/

def unescapeChar (a : Char) : Option Char :=
  if a = '\\' then some '\\'
  else if a = 'n' then some '\n'
  else if a = quote then some quote
  else none

/-- A label value up to the quote that ends it, and what follows. -/
def readQuoted : Text → Option (Text × Text)
  | [] => none
  | a :: rest =>
    if a = quote then some ([], rest)
    else if a = '\\' then
      match rest with
      | [] => none
      | b :: rest =>
        (unescapeChar b).bind fun c => (readQuoted rest).map fun r => (c :: r.1, r.2)
    else (readQuoted rest).map fun r => (a :: r.1, r.2)

/-- `name="value"` -/
def readLabel (t : Text) : Option ((Text × Text) × Text) :=
  match t.dropWhile (· ≠ '=') with
  | _ :: a :: rest =>
    if a = quote then (readQuoted rest).map fun r => ((t.takeWhile (· ≠ '='), r.1), r.2) else none
  | _ => none

/-- Labels up to the closing brace, at most `fuel` of them. -/
def readLabels : Nat → Text → Option (List (Text × Text) × Text)
  | 0, _ => none
  | fuel + 1, t =>
    (readLabel t).bind fun (label, rest) =>
      match rest with
      | ',' :: rest => (readLabels fuel rest).map fun r => (label :: r.1, r.2)
      | '}' :: rest => some ([label], rest)
      | _ => none

def parseSample (line : Text) : Option Sample :=
  let name := line.takeWhile fun a => a ≠ '{' && a ≠ ' '
  match line.dropWhile fun a => a ≠ '{' && a ≠ ' ' with
  | ' ' :: value => some ⟨name, [], value⟩
  | '{' :: rest =>
    (readLabels rest.length rest).bind fun (labels, rest) =>
      match rest with
      | ' ' :: value => some ⟨name, labels, value⟩
      | _ => none
  | _ => none

/-- A line that says nothing about a sample. -/
def isComment (line : Text) : Bool := line = [] || line.head? = some '#'

def parse (page : Text) : Option (List Sample) :=
  ((page.splitOn '\n').filter (!isComment ·)).mapM parseSample

/-! ### One line -/

/-- A quote ends the text. -/
private theorem readQuoted_quote (rest : Text) : readQuoted (quote :: rest) = some ([], rest) := by
  rw [readQuoted.eq_def]
  exact if_pos rfl

/-- An escaped character is read back. -/
private theorem readQuoted_backslash (b : Char) (rest : Text) :
    readQuoted ('\\' :: b :: rest) =
      (unescapeChar b).bind fun c => (readQuoted rest).map fun r => (c :: r.1, r.2) := by
  have hquote : '\\' ≠ quote := by decide
  rw [readQuoted.eq_def]
  simp only [if_neg hquote, if_true]

/-- Any other character is read as it is. -/
private theorem readQuoted_plain {a : Char} (hquote : a ≠ quote) (hbackslash : a ≠ '\\')
    (rest : Text) :
    readQuoted (a :: rest) = (readQuoted rest).map fun r => (a :: r.1, r.2) := by
  rw [readQuoted.eq_def]
  simp only [if_neg hquote, if_neg hbackslash]

/-- An escaped text is read back. -/
theorem readQuoted_escape (t rest : Text) :
    readQuoted (escape t ++ quote :: rest) = some (t, rest) := by
  induction t with
  | nil => exact readQuoted_quote rest
  | cons a t ih =>
    have hcons : escape (a :: t) ++ quote :: rest = escapeChar a ++
        (escape t ++ quote :: rest) := by
      simp only [escape, List.flatMap_cons, List.append_assoc]
    rw [hcons, escapeChar]
    by_cases hbackslash : a = '\\'
    · subst hbackslash
      show readQuoted ('\\' :: '\\' :: (escape t ++ quote :: rest)) = _
      rw [readQuoted_backslash, ih]
      rfl
    · rw [if_neg hbackslash]
      by_cases hfeed : a = '\n'
      · subst hfeed
        show readQuoted ('\\' :: 'n' :: (escape t ++ quote :: rest)) = _
        rw [readQuoted_backslash, ih]
        rfl
      · rw [if_neg hfeed]
        by_cases hquote : a = quote
        · subst hquote
          show readQuoted ('\\' :: quote :: (escape t ++ quote :: rest)) = _
          rw [readQuoted_backslash, ih]
          rfl
        · -- any other character stands for itself
          rw [if_neg hquote, List.singleton_append, readQuoted_plain hquote hbackslash, ih]
          rfl

/-- What a name consists of does not end it. -/
theorem takeWhile_dropWhile_append {p : Char → Bool} {name : Text} (hname : ∀ a ∈ name, p a)
    {a : Char} (ha : ¬p a) (rest : Text) :
    (name ++ a :: rest).takeWhile p = name ∧ (name ++ a :: rest).dropWhile p = a :: rest := by
  constructor
  · rw [List.takeWhile_append_of_pos hname, List.takeWhile_cons_of_neg ha, List.append_nil]
  · rw [List.dropWhile_append_of_pos hname, List.dropWhile_cons_of_neg ha]

/-- A label is read back. -/
private theorem readLabel_labelText {label : Text × Text} (hname : '=' ∉ label.1) (rest : Text) :
    readLabel (labelText label ++ rest) = some (label, rest) := by
  have htext : labelText label ++ rest =
      label.1 ++ '=' :: (quote :: (escape label.2 ++ quote :: rest)) := by
    simp only [labelText, List.append_assoc, List.cons_append, List.nil_append]
  have hplain : ∀ a ∈ label.1, decide (a ≠ '=') = true := by
    intro a ha
    exact decide_eq_true fun h => hname (h ▸ ha)
  obtain ⟨htake, hdrop⟩ := takeWhile_dropWhile_append hplain (a := '=') (by decide)
    (quote :: (escape label.2 ++ quote :: rest))
  rw [htext, readLabel, htake, hdrop]
  simp only [if_true, readQuoted_escape, Option.map_some]

/-- Commas between texts. -/
theorem intercalate_cons_cons (l₁ l₂ : Text) (ls : List Text) :
    List.intercalate [','] (l₁ :: l₂ :: ls) = l₁ ++ ',' :: List.intercalate [','] (l₂ :: ls) := by
  simp [List.intercalate]

/-- Labels end at the brace after them. -/
private theorem readLabels_labels {labels : List (Text × Text)} (hlabels : labels ≠ [])
    (hnames : ∀ label ∈ labels, '=' ∉ label.1) (fuel : Nat) (hfuel : labels.length ≤ fuel)
    (rest : Text) :
    readLabels fuel (List.intercalate [','] (labels.map labelText) ++ '}' :: rest) =
      some (labels, rest) := by
  -- by induction on the labels: a comma follows all but the last
  induction labels generalizing fuel with
  | nil => exact absurd rfl hlabels
  | cons label labels ih =>
    obtain ⟨fuel, rfl⟩ : ∃ n, fuel = n + 1 := by
      rw [List.length_cons] at hfuel
      exact ⟨fuel - 1, by omega⟩
    have hname := hnames label List.mem_cons_self
    cases labels with
    | nil =>
      show readLabels (fuel + 1) (List.intercalate [','] [labelText label] ++ '}' :: rest) = _
      rw [List.intercalate_singleton, readLabels, readLabel_labelText hname]
      rfl
    | cons second labels =>
      have ih := ih (by simp) (fun l hl => hnames l (List.mem_cons_of_mem _ hl)) fuel
        (by simpa using hfuel)
      rw [List.map_cons] at ih ⊢
      rw [List.map_cons, intercalate_cons_cons, List.append_assoc, readLabels,
        readLabel_labelText hname, List.cons_append]
      simp only [Option.bind_some, ih, Option.map_some]

/-- The names of a sample that a page can hold: neither a blank, a brace nor a number sign, and
    no equals sign in the name of a label. -/
structure Named (sample : Sample) : Prop where
  name : ∀ a ∈ sample.name, (a ≠ '{' && a ≠ ' ' && a ≠ '#' && a ≠ '\n') = true
  nonempty : sample.name ≠ []
  labels : ∀ label ∈ sample.labels, ∀ a ∈ label.1, (a ≠ '=' && a ≠ '\n') = true
  value : '\n' ∉ sample.value

/-- There are not more labels than characters. -/
private theorem length_le_intercalate (labels : List (Text × Text)) :
    labels.length ≤ (List.intercalate [','] (labels.map labelText)).length := by
  induction labels with
  | nil => exact Nat.le_refl 0
  | cons label labels ih =>
    have hlabel : 1 ≤ (labelText label).length := by
      simp only [labelText, List.length_append, List.length_cons]
      omega
    cases labels with
    | nil =>
      show 1 ≤ (List.intercalate [','] [labelText label]).length
      rwa [List.intercalate_singleton]
    | cons second labels =>
      rw [List.map_cons] at ih
      rw [List.map_cons, List.map_cons, intercalate_cons_cons, List.length_append]
      simp only [List.length_cons] at ih ⊢
      omega

/-- A sample is read back from its line. -/
theorem parseSample_sampleLine {sample : Sample} (h : Named sample) :
    parseSample (sampleLine sample) = some sample := by
  obtain ⟨name, labels, value⟩ := sample
  have hname : ∀ a ∈ name, (a ≠ '{' && a ≠ ' ') = true := by
    intro a ha
    have := h.name a ha
    simp only [Bool.and_eq_true] at this ⊢
    exact this.1.1
  -- without labels the value follows the name, else the braces are read first
  by_cases hlabels : labels = []
  · subst hlabels
    have hline : sampleLine ⟨name, [], value⟩ = name ++ ' ' :: value := by
      simp [sampleLine, labelsText]
    obtain ⟨htake, hdrop⟩ := takeWhile_dropWhile_append hname (a := ' ') (by decide) value
    rw [hline, parseSample, htake, hdrop]
    rfl
  · have hline : sampleLine ⟨name, labels, value⟩ = name ++ '{' ::
        (List.intercalate [','] (labels.map labelText) ++ '}' :: ' ' :: value) := by
      simp [sampleLine, labelsText, hlabels]
    obtain ⟨htake, hdrop⟩ := takeWhile_dropWhile_append hname (a := '{') (by decide)
      (List.intercalate [','] (labels.map labelText) ++ '}' :: ' ' :: value)
    have hlength := length_le_intercalate labels
    have hread := readLabels_labels hlabels
      (fun label hl hmem => by simpa using h.labels label hl '=' hmem)
      (List.intercalate [','] (labels.map labelText) ++ '}' :: ' ' :: value).length
      (by rw [List.length_append]; omega) (' ' :: value)
    rw [hline, parseSample, htake, hdrop]
    simp only [hread, Option.bind_some]

/-! ### A page -/

/-- An escaped text holds no line feed. -/
private theorem feed_notMem_escape (t : Text) : '\n' ∉ escape t := by
  intro h
  obtain ⟨a, -, ha⟩ := List.mem_flatMap.mp h
  unfold escapeChar at ha
  by_cases hbackslash : a = '\\'
  · rw [if_pos hbackslash] at ha
    exact absurd ha (by decide)
  · rw [if_neg hbackslash] at ha
    by_cases hfeed : a = '\n'
    · rw [if_pos hfeed] at ha
      exact absurd ha (by decide)
    · rw [if_neg hfeed] at ha
      by_cases hquote : a = quote
      · rw [if_pos hquote] at ha
        exact absurd ha (by decide)
      · rw [if_neg hquote] at ha
        exact hfeed (List.mem_singleton.mp ha).symm

/-- The line of a sample is one line. -/
private theorem feed_notMem_sampleLine {sample : Sample} (h : Named sample) :
    '\n' ∉ sampleLine sample := by
  -- neither the name, nor the labels, nor what stands between them does
  have hname : '\n' ∉ sample.name := fun hmem => by simpa using h.name '\n' hmem
  have hlabel : ∀ label ∈ sample.labels, '\n' ∉ labelText label := by
    intro label hl hmem
    have hkey : '\n' ∉ label.1 := fun hmem => by simpa using h.labels label hl '\n' hmem
    have hfeed := feed_notMem_escape label.2
    have hquote : '\n' ≠ quote := by decide
    simp only [labelText, List.mem_append, List.mem_cons, List.not_mem_nil] at hmem
    simp_all
  have hlabels : '\n' ∉ labelsText sample.labels := by
    unfold labelsText
    by_cases hnil : sample.labels = []
    · rw [if_pos hnil]
      exact List.not_mem_nil
    · rw [if_neg hnil]
      intro hmem
      have hinter : '\n' ∉ List.intercalate [','] (sample.labels.map labelText) := by
        clear hmem hnil
        revert hlabel
        generalize sample.labels = labels
        intro hlabel
        induction labels with
        | nil => exact List.not_mem_nil
        | cons label labels ih =>
          have ih := ih fun l hl => hlabel l (List.mem_cons_of_mem _ hl)
          have hhead := hlabel label List.mem_cons_self
          cases labels with
          | nil =>
            show '\n' ∉ List.intercalate [','] [labelText label]
            rwa [List.intercalate_singleton]
          | cons second labels =>
            rw [List.map_cons] at ih
            rw [List.map_cons, List.map_cons, intercalate_cons_cons]
            intro hmem
            have hcomma : '\n' ≠ ',' := by decide
            simp only [List.mem_append, List.mem_cons] at hmem
            rcases hmem with hmem | hmem | hmem
            · exact hhead hmem
            · exact hcomma hmem
            · exact ih hmem
      have hopen : '\n' ≠ '{' := by decide
      have hclose : '\n' ≠ '}' := by decide
      simp only [List.cons_append, List.mem_cons, List.mem_append, List.not_mem_nil,
        or_false] at hmem
      rcases hmem with hmem | hmem | hmem
      · exact hopen hmem
      · exact hinter hmem
      · exact hclose hmem
  have hblank : '\n' ≠ ' ' := by decide
  intro hmem
  simp only [sampleLine, List.mem_append, List.mem_cons] at hmem
  rcases hmem with (hmem | hmem) | hmem | hmem
  · exact hname hmem
  · exact hlabels hmem
  · exact hblank hmem
  · exact h.value hmem

/-- A sample's line is no comment. -/
private theorem isComment_sampleLine {sample : Sample} (h : Named sample) :
    isComment (sampleLine sample) = false := by
  obtain ⟨name, labels, value⟩ := sample
  cases name with
  | nil => exact absurd rfl h.nonempty
  | cons a name =>
    have ha := h.name a List.mem_cons_self
    simp only [Bool.and_eq_true, decide_eq_true_eq, ne_eq] at ha
    simp [isComment, sampleLine, ha.1.2]

/-- A line of a page: a comment, or the line of a sample. -/
inductive Line where
  | comment (t : Text)
  | sample (x : Sample)

def Line.text : Line → Text
  | .comment t => t
  | .sample x => sampleLine x

def Line.sample? : Line → Option Sample
  | .comment _ => none
  | .sample x => some x

/-- A line that a page can hold. -/
def Line.WellFormed : Line → Prop
  | .comment t => isComment t = true ∧ '\n' ∉ t
  | .sample x => Named x

/-- The page with these lines, each with its line feed. -/
def page (lines : List Line) : Text :=
  List.intercalate ['\n'] (lines.map Line.text) ++ ['\n']

/-- A page is read back line by line. -/
theorem parse_page {lines : List Line} (hlines : lines ≠ []) (h : ∀ line ∈ lines, line.WellFormed) :
    parse (page lines) = some (lines.filterMap Line.sample?) := by
  have hsingle : ∀ l ∈ lines.map Line.text ++ [[]], '\n' ∉ l := by
    intro l hl
    rcases List.mem_append.mp hl with hl | hl
    · obtain ⟨line, hline, rfl⟩ := List.mem_map.mp hl
      cases line with
      | comment text => exact (h _ hline).2
      | sample sample => exact feed_notMem_sampleLine (h _ hline)
    · rw [List.mem_singleton.mp hl]
      exact List.not_mem_nil
  have hpage : page lines = List.intercalate ['\n'] (lines.map Line.text ++ [[]]) := by
    clear hsingle h
    unfold page
    induction lines with
    | nil => exact absurd rfl hlines
    | cons line lines ih =>
      cases lines with
      | nil => simp [List.intercalate]
      | cons second lines =>
        have ih := ih (by simp)
        simp only [List.map_cons, List.cons_append, List.intercalate, List.intersperse_cons_cons,
          List.flatten_cons, List.append_assoc] at ih ⊢
        rw [ih]
  rw [parse, hpage, List.splitOn_intercalate '\n' hsingle (by simp), List.filter_append]
  have hend : ([[]] : List Text).filter (!isComment ·) = [] := rfl
  rw [hend, List.append_nil]
  -- line by line
  clear hsingle hpage hlines
  induction lines with
  | nil => rfl
  | cons line lines ih =>
    have ih := ih fun l hl => h l (List.mem_cons_of_mem _ hl)
    have hline := h line List.mem_cons_self
    cases line with
    | comment text =>
      rw [List.map_cons, List.filter_cons_of_neg
        (by simp [Line.text, show isComment text = true from hline.1]), ih]
      rfl
    | sample sample =>
      have hnot : isComment (Line.text (.sample sample)) = false := isComment_sampleLine hline
      rw [List.map_cons, List.filter_cons_of_pos (by simp [hnot]), List.mapM_cons, ih, Line.text,
        parseSample_sampleLine hline]
      rfl

end Exposition
