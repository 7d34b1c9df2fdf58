import HivePoint.Native.OpenApiServer

/-!
# What the patterns of a YAML snapshot match

The `servers` block of a snapshot reaches from its key to the next line that begins with a key,
and the server is the first value in it that follows `- url:`.

## Key results

- `serversPattern_run`, `exists_of_serversPattern`: the block that is found
- `serverUrlPattern_run`, `exists_of_serverUrlPattern`: the value that is found
-/

namespace HivePoint

open Regex

/-! ### The end of the block -/

/-- A line that begins with a key stands here. -/
def startsKey : Text → Bool
  | nl :: a :: t =>
    nl = '\n' && !Text.isSpace a && a ≠ '-' && (t.dropWhile isKeyChar).head? = some ':'
  | _ => false

/-- A block ends before a key at the beginning of a line, or before blanks at the end. -/
def endsBlock (s : Text) : Bool := startsKey s || s.all Text.isSpace

/-- The block that begins here. -/
def blockOf : Text → Text
  | [] => []
  | a :: t => if endsBlock (a :: t) then [] else a :: blockOf t

/-- A text starts a key at a line feed, its name and a colon. -/
theorem startsKey_iff {s : Text} : startsKey s = true ↔
    ∃ a xs t, s = '\n' :: a :: xs ++ ':' :: t ∧ Text.isSpace a = false ∧ a ≠ '-' ∧
      ∀ x ∈ xs, isKeyChar x = true := by
  constructor
  · intro h
    unfold startsKey at h
    split at h
    · rename_i nl a t
      simp only [Bool.and_eq_true, decide_eq_true_eq, Bool.not_eq_true'] at h
      obtain ⟨⟨⟨rfl, hspace⟩, hdash⟩, hcolon⟩ := h
      obtain ⟨t', ht'⟩ := List.head?_eq_some_iff.mp hcolon
      refine ⟨a, t.takeWhile isKeyChar, t', ?_, hspace, hdash,
        fun x hx => List.mem_takeWhile_imp hx⟩
      rw [← ht', List.cons_append, List.cons_append, List.takeWhile_append_dropWhile]
    · exact nomatch h
  · rintro ⟨a, xs, t, rfl, hspace, hdash, hxs⟩
    have hdrop : (xs ++ ':' :: t).dropWhile isKeyChar = ':' :: t := by
      rw [List.dropWhile_append_of_pos hxs]
      rfl
    simp [startsKey, hspace, hdash, hdrop]

/-- What `blockEndPattern` matches leaves the group as it is. -/
private theorem blockEndPattern_some {c c' : Cursor} (h : blockEndPattern.run c some = some c') :
    endsBlock c.after = true ∧ c'.group = c.group := by
  unfold blockEndPattern at h
  rw [run_alt] at h
  cases Option.or_eq_some_iff.mp h with
  -- the first alternative is a key, the second the end of the text
  | inl h =>
    simp only [run_seqs_cons, run_seqs_nil] at h
    obtain ⟨nl, t₁, hafter₁, hnl, h⟩ := run_one_eq_some h
    obtain ⟨a, t₂, hafter₂, ha, h⟩ := run_one_eq_some h
    obtain ⟨xs, t₃, hafter₃, hxs, h⟩ := exists_of_run_star h
    obtain ⟨colon, t₄, hafter₄, hcolon, h⟩ := run_one_eq_some h
    simp only at hafter₂ hafter₃ hafter₄
    simp only [Bool.and_eq_true, Bool.not_eq_true', decide_eq_true_eq] at hnl ha hcolon
    refine ⟨?_, by rw [← Option.some.inj h]⟩
    refine Bool.or_eq_true_iff.mpr (.inl (startsKey_iff.mpr ⟨a, xs, t₄, ?_, ha.1, ha.2, hxs⟩))
    rw [hafter₁, hafter₂, hafter₃, hafter₄, hnl, hcolon]
    rfl
  | inr h =>
    simp only [run_seqs_cons, run_seqs_nil] at h
    obtain ⟨xs, t, hafter, hxs, h⟩ := exists_of_run_star h.2
    simp only [run] at h
    split at h
    · rename_i hstop
      obtain rfl : t = [] := by simpa using hstop
      refine ⟨Bool.or_eq_true_iff.mpr (.inr ?_), by rw [← Option.some.inj h]⟩
      rw [hafter, List.append_nil]
      exact List.all_eq_true.mpr hxs
    · exact nomatch h

/-- The pattern matches where the block ends. -/
private theorem blockEndPattern_isSome {s : Text} (before : Text) (group : Option Text)
    (h : endsBlock s = true) :
    (blockEndPattern.run ⟨before, s, group⟩ some).isSome := by
  unfold blockEndPattern
  rw [run_alt, Option.isSome_or]
  cases Bool.or_eq_true_iff.mp h with
  | inl h =>
    obtain ⟨a, xs, t, rfl, hspace, hdash, hxs⟩ := startsKey_iff.mp h
    refine Bool.or_eq_true_iff.mpr (.inl ?_)
    simp only [run_seqs_cons, run_seqs_nil, List.cons_append, run_one_cons, decide_true, if_true,
      hspace, hdash, Bool.not_false, ne_eq, not_false_eq_true, Bool.and_self]
    exact run_star_isSome hxs (by simp)
  | inr h =>
    refine Bool.or_eq_true_iff.mpr (.inr ?_)
    simp only [run_seqs_cons, run_seqs_nil]
    rw [← List.append_nil s]
    exact run_star_isSome (List.all_eq_true.mp h) (by simp [run])

/-- `blockEndPattern` matches where a block ends. -/
private theorem blockEndPattern_run (before s : Text) (group : Option Text) :
    (blockEndPattern.run ⟨before, s, group⟩ some).map (·.group) =
      if endsBlock s then some group else none := by
  cases hrun : blockEndPattern.run ⟨before, s, group⟩ some with
  | some c =>
    obtain ⟨hends, hgroup⟩ := blockEndPattern_some hrun
    rw [if_pos hends, Option.map_some, hgroup]
  | none =>
    have hends : ¬endsBlock s = true := by
      intro hends
      have := blockEndPattern_isSome before group hends
      rw [hrun] at this
      exact nomatch this
    rw [if_neg hends, Option.map_none]

/-- A text in which no block ends goes on into the block. -/
private theorem blockOf_append {t u : Text}
    (h : ∀ t₁ t₂, t = t₁ ++ t₂ → t₂ ≠ [] → ¬endsBlock (t₂ ++ u) = true) :
    blockOf (t ++ u) = t ++ blockOf u := by
  induction t with
  | nil => rfl
  | cons a t ih =>
    have hhere : ¬endsBlock (a :: (t ++ u)) = true := h [] (a :: t) rfl (by simp)
    rw [List.cons_append, blockOf, if_neg hhere, List.cons_append, ih]
    intro t₁ t₂ ht hne
    exact h (a :: t₁) t₂ (by rw [ht, List.cons_append]) hne

/-- No line of the text but the first can be one that begins with a key. -/
def Indented (t : Text) : Prop :=
  ∀ a u, '\n' :: a :: u <:+ t → Text.isSpace a = true ∨ a = '-'

/-- What ends an indented text is indented. -/
theorem Indented.suffix {t u : Text} (h : Indented t) (hu : u <:+ t) : Indented u :=
  fun a v hv => h a v (hv.trans hu)

/-- A text without line feeds is indented. -/
theorem indented_of_notMem {t : Text} (h : '\n' ∉ t) : Indented t :=
  fun _ _ hv => absurd (hv.subset List.mem_cons_self) h

/-- A character before an indented text. -/
theorem Indented.cons {b : Char} {t : Text} (ht : Indented t)
    (hb : b = '\n' → ∀ a ∈ t.head?, Text.isSpace a = true ∨ a = '-') : Indented (b :: t) := by
  intro a u hu
  rcases List.suffix_cons_iff.mp hu with heq | hsuffix
  · obtain ⟨hnl, rfl⟩ := List.cons.inj heq
    exact hb hnl.symm a rfl
  · exact ht a u hsuffix

/-- Two indented texts, one after the other. -/
theorem Indented.append {t u : Text} (ht : Indented t) (hlast : t.getLast? ≠ some '\n')
    (hu : Indented u) : Indented (t ++ u) := by
  rintro a v ⟨w, hw⟩
  rcases List.append_eq_append_iff.mp hw with ⟨m, hm, hrest⟩ | ⟨m, hm, hrest⟩
  · -- the line ends in the first text, or between the two
    cases m with
    | nil => exact hu a v ⟨[], hrest⟩
    | cons nl m =>
      obtain ⟨rfl, hrest'⟩ := List.cons.inj hrest
      cases m with
      | nil => exact absurd (by rw [hm, List.getLast?_concat]) hlast
      | cons b m =>
        obtain rfl : a = b := (List.cons.inj hrest').1
        exact ht a m ⟨w, hm.symm⟩
  · exact hu a v ⟨m, hrest.symm⟩

/-- An indented text that ends in no blank goes on into the block. -/
theorem blockOf_indented {t u : Text} {b : Char} (ht : Indented t) (hlast : t.getLast? = some b)
    (hb : Text.isSpace b = false) : blockOf (t ++ u) = t ++ blockOf u := by
  refine blockOf_append fun t₁ t₂ hsplit hne hends => ?_
  have hlast' : t₂.getLast? = some b := by
    rw [hsplit, List.getLast?_append] at hlast
    cases hlast₂ : t₂.getLast? with
    | none => exact absurd (List.getLast?_eq_none_iff.mp hlast₂) hne
    | some a => rwa [hlast₂, Option.some_or] at hlast
  have hmem : b ∈ t₂ := List.mem_of_getLast? hlast'
  -- no end of the block inside the text: its last character is not blank, its lines are indented
  rcases Bool.or_eq_true_iff.mp hends with hkey | hblank
  · obtain ⟨a, xs, v, heq, hspace, hdash, -⟩ := startsKey_iff.mp hkey
    obtain ⟨nl, t₃, rfl⟩ := List.exists_cons_of_ne_nil hne
    obtain ⟨rfl, heq'⟩ := List.cons.inj heq
    cases t₃ with
    | nil =>
      obtain rfl := List.mem_singleton.mp hmem
      exact nomatch hb
    | cons a' t₃ =>
      obtain rfl : a' = a := (List.cons.inj heq').1
      rcases ht a' t₃ ⟨t₁, hsplit.symm⟩ with h | h
      · exact nomatch hspace.symm.trans h
      · exact hdash h
  · rw [List.all_append, Bool.and_eq_true] at hblank
    exact nomatch hb.symm.trans (List.all_eq_true.mp hblank.1 b hmem)

/-- What a block is followed by. -/
theorem exists_of_blockOf (s : Text) : ∃ tail, s = blockOf s ++ tail := by
  induction s with
  | nil => exact ⟨[], rfl⟩
  | cons a t ih =>
    unfold blockOf
    split
    · exact ⟨a :: t, rfl⟩
    · obtain ⟨tail, htail⟩ := ih
      exact ⟨tail, by rw [List.cons_append, ← htail]⟩

/-! ### The block -/

/-- The group takes character after character until the block ends. -/
private theorem lazyGroup_run (s : Text) (before taken : Text) (group : Option Text) :
    ((Regex.star false fun _ => true).run ⟨before, s, group⟩ fun c =>
      blockEndPattern.run
        { c with group := some ((taken ++ s).take ((taken ++ s).length - c.after.length)) }
        some).map (·.group) = some (some (taken ++ blockOf s)) := by
  show (runStar _ _ _ _ _ _).map _ = _
  induction s generalizing before taken with
  | nil =>
    rw [runStar, blockEndPattern_run]
    show some (some ((taken ++ []).take (taken ++ []).length)) = _
    rw [List.take_length]
    rfl
  | cons a t ih =>
    have htake : (taken ++ a :: t).take ((taken ++ a :: t).length - (a :: t).length) = taken := by
      rw [List.length_append, Nat.add_sub_cancel, List.take_left]
    have hhere := blockEndPattern_run before (a :: t) (some taken)
    simp only [runStar, Bool.false_eq_true, if_false, if_true]
    rw [htake, blockOf]
    -- the block ends here, or one character later
    cases hrun : blockEndPattern.run ⟨before, a :: t, some taken⟩ some with
    | some c =>
      rw [hrun, Option.map_some] at hhere
      split at hhere
      · rename_i hends
        rw [Option.some_or, if_pos hends, List.append_nil, Option.map_some, hhere]
      · cases hhere
    | none =>
      rw [hrun] at hhere
      split at hhere
      · cases hhere
      · rename_i hends
        have hmore := ih (a :: before) (taken ++ [a])
        rw [List.append_assoc, List.singleton_append, List.append_assoc, List.singleton_append]
          at hmore
        rw [Option.none_or, if_neg hends, hmore]

/-- What `serversPattern` matches after the line's beginning. -/
private def blockPattern : Regex :=
  seqs [literal "servers:".toList, .star true Text.isSpace, .group (.star false fun _ => true),
    blockEndPattern]

/-- The block's pattern matches at its key, and takes the block behind it. -/
private theorem blockPattern_run (before t : Text) :
    ∃ c, blockPattern.run ⟨before, "servers:".toList ++ t, none⟩ some = some c ∧
      c.group = some (blockOf (t.dropWhile Text.isSpace)) := by
  have hlazy := lazyGroup_run (t.dropWhile Text.isSpace)
    ((t.takeWhile Text.isSpace).reverse ++ ("servers:".toList.reverse ++ before)) [] none
  obtain ⟨c, hc, hgroup⟩ := Option.map_eq_some_iff.mp hlazy
  refine ⟨c, ?_, hgroup⟩
  unfold blockPattern
  rw [run_seqs_cons, run_literal]
  exact run_star_span hc

/-- At the beginning of a line `servers:` the block is found. -/
theorem serversPattern_run {nl : Text} (before t : Text)
    (hnl : nl = [] ∧ before = [] ∨ nl = ['\n']) :
    ∃ c, serversPattern.run ⟨before, nl ++ "servers:".toList ++ t, none⟩ some = some c ∧
      c.group = some (blockOf (t.dropWhile Text.isSpace)) := by
  show ∃ c, (Regex.seq (.alt (.start false) (.one (· = '\n'))) blockPattern).run _ some = _ ∧ _
  rw [run_seq, run_alt]
  cases hnl with
  | inl h =>
    obtain ⟨rfl, rfl⟩ := h
    obtain ⟨c, hc, hgroup⟩ := blockPattern_run [] t
    exact ⟨c, by rw [List.nil_append, run_start, if_pos (.inl rfl), hc, Option.some_or], hgroup⟩
  | inr h =>
    obtain rfl := h
    obtain ⟨c, hc, hgroup⟩ := blockPattern_run ('\n' :: before) t
    refine ⟨c, ?_, hgroup⟩
    -- the key does not begin with the newline, so `^` leads nowhere
    have hkey : blockPattern.run ⟨before, ['\n'] ++ "servers:".toList ++ t, none⟩ some = none := rfl
    rw [run_start, hkey, ite_self, Option.none_or, List.singleton_append, List.cons_append,
      run_one_cons,
      if_pos (decide_eq_true rfl), hc]

/-- The block that is found stands after `servers:` at the beginning of a line. -/
theorem exists_of_serversPattern {before after : Text} {c : Cursor}
    (h : serversPattern.run ⟨before, after, none⟩ some = some c) :
    ∃ nl ws block tail, after = nl ++ "servers:".toList ++ (ws ++ (block ++ tail)) ∧
      (nl = [] ∧ before = [] ∨ nl = ['\n']) ∧ (∀ a ∈ ws, Text.isSpace a = true) ∧
      endsBlock tail = true ∧ c.group = some block := by
  -- the pattern's own parts, one after the other
  have hblock : ∀ c₀ : Cursor, blockPattern.run c₀ some = some c →
      ∃ ws block tail, c₀.after = "servers:".toList ++ (ws ++ (block ++ tail)) ∧
        (∀ a ∈ ws, Text.isSpace a = true) ∧ endsBlock tail = true ∧ c.group = some block := by
    intro c₀ h
    unfold blockPattern at h
    simp only [run_seqs_cons, run_seqs_nil, run_group] at h
    obtain ⟨t₁, hafter₁, h⟩ := run_literal_eq_some h
    obtain ⟨ws, t₂, hafter₂, hws, h⟩ := exists_of_run_star h
    obtain ⟨block, tail, hafter₃, -, h⟩ := exists_of_run_star h
    simp only at hafter₂ hafter₃ h
    obtain ⟨hends, hgroup⟩ := blockEndPattern_some h
    refine ⟨ws, block, tail, by rw [hafter₁, hafter₂, hafter₃], hws, hends, ?_⟩
    rw [hgroup, hafter₃, List.length_append, Nat.add_sub_cancel, List.take_left]
  rw [show serversPattern = .seq (.alt (.start false) (.one (· = '\n'))) blockPattern from rfl,
    run_seq, run_alt] at h
  -- the key is at the start of the text, or behind a line feed
  cases Option.or_eq_some_iff.mp h with
  | inl h =>
    rw [run_start] at h
    split at h
    · rename_i hstart
      obtain ⟨ws, block, tail, hafter, hws, hends, hgroup⟩ := hblock _ h
      exact ⟨[], ws, block, tail, hafter, .inl ⟨rfl, by simpa using hstart⟩, hws, hends, hgroup⟩
    · exact nomatch h
  | inr h =>
    obtain ⟨nl, t, hafter, hnl, h⟩ := run_one_eq_some h.2
    obtain ⟨ws, block, tail, hafter', hws, hends, hgroup⟩ := hblock _ h
    refine ⟨['\n'], ws, block, tail, ?_, .inr rfl, hws, hends, hgroup⟩
    simp only at hafter hafter'
    rw [hafter, hafter', of_decide_eq_true hnl]
    rfl

/-! ### The value -/

/-- A quotation mark, or none. -/
def IsMark (q : Text) : Prop := q = [] ∨ ∃ a, isQuote a = true ∧ q = [a]

/-- `- url:` and a value stand here. -/
def NamesServer (s : Text) : Prop :=
  ∃ ws₁ ws₂ q a r, s = '-' :: (ws₁ ++ ("url:".toList ++ (ws₂ ++ (q ++ a :: r)))) ∧
    (∀ x ∈ ws₁, Text.isSpace x = true) ∧ (∀ x ∈ ws₂, Text.isSpace x = true) ∧ IsMark q ∧
    isValueChar a = true

/-- The value reaches to the next quotation mark, or to the end of the line. -/
private theorem value_run {after : Text} (before : Text) (group : Option Text)
    (h : after.takeWhile isValueChar ≠ []) :
    ∃ c, (seqs [.group (plus isValueChar), .opt (.one isQuote)]).run ⟨before, after, group⟩ some =
      some c ∧ c.group = some (after.takeWhile isValueChar) := by
  obtain ⟨a, t, rfl, ha⟩ : ∃ a t, after = a :: t ∧ isValueChar a = true := by
    cases after with
    | nil => exact absurd rfl h
    | cons a t =>
      refine ⟨a, t, rfl, Decidable.byContradiction fun ha => h ?_⟩
      rw [List.takeWhile_cons_of_neg ha]
  -- the quote at the end matches whether it is there or not
  have hopt : ∀ c : Cursor, ∃ c', (Regex.opt (.one isQuote)).run c some = some c' ∧
      c'.group = c.group := by
    rintro ⟨before, after, group⟩
    rw [run_opt]
    cases after with
    | nil => exact ⟨_, rfl, rfl⟩
    | cons x t =>
      rw [run_one_cons]
      split <;> exact ⟨_, rfl, rfl⟩
  have hspan : a :: t = (a :: t.takeWhile isValueChar) ++ t.dropWhile isValueChar := by
    rw [List.cons_append, List.takeWhile_append_dropWhile]
  have htake : (a :: t).take ((a :: t).length - (t.dropWhile isValueChar).length) =
      a :: t.takeWhile isValueChar := by
    rw [hspan, List.length_append, Nat.add_sub_cancel, List.take_left]
  obtain ⟨c, hc, hgroup⟩ := hopt ⟨(t.takeWhile isValueChar).reverse ++ a :: before,
    t.dropWhile isValueChar, some (a :: t.takeWhile isValueChar)⟩
  refine ⟨c, ?_, by rw [hgroup, List.takeWhile_cons_of_pos ha]⟩
  simp only [run_seqs_cons, run_seqs_nil, run_group, plus, run_seq, run_one_cons, ha, if_true]
  refine run_star_span ?_
  dsimp only
  rw [htake, hc]

/-- No value is empty. -/
private theorem exists_of_value {c c' : Cursor}
    (h : (seqs [.group (plus isValueChar), .opt (.one isQuote)]).run c some = some c') :
    c.after.takeWhile isValueChar ≠ [] ∧ c'.group = some (c.after.takeWhile isValueChar) := by
  have hvalue : c.after.takeWhile isValueChar ≠ [] := by
    simp only [run_seqs_cons, run_group, plus, run_seq] at h
    obtain ⟨a, t, hafter, ha, -⟩ := run_one_eq_some h
    rw [hafter, List.takeWhile_cons_of_pos ha]
    simp
  obtain ⟨c₁, hrun, hgroup⟩ := value_run c.before c.group hvalue
  obtain rfl : c₁ = c' := Option.some.inj (hrun.symm.trans h)
  exact ⟨hvalue, hgroup⟩

/-- The value of `- url:` is found. -/
theorem serverUrlPattern_run {before ws₁ ws₂ q r : Text}
    (hws₁ : ∀ x ∈ ws₁, Text.isSpace x = true) (hws₂ : ∀ x ∈ ws₂, Text.isSpace x = true)
    (hq : IsMark q) (hstop : ∀ x ∈ (q ++ r).head?, Text.isSpace x = false)
    (hr : r.takeWhile isValueChar ≠ []) :
    ∃ c, serverUrlPattern.run
        ⟨before, '-' :: (ws₁ ++ ("url:".toList ++ (ws₂ ++ (q ++ r)))), none⟩ some = some c ∧
      c.group = some (r.takeWhile isValueChar) := by
  obtain ⟨c, hc, hgroup⟩ := value_run
    (q.reverse ++ (ws₂.reverse ++ ("url:".toList.reverse ++ (ws₁.reverse ++ '-' :: before)))) none
      hr
  refine ⟨c, ?_, hgroup⟩
  unfold serverUrlPattern valuePattern
  rw [run_seqs_cons, run_one_cons, if_pos (decide_eq_true rfl), run_seqs_cons]
  refine run_star_greedy hws₁ (fun x hx => by obtain rfl : 'u' = x := Option.some.inj hx; rfl) ?_
  rw [run_seqs_cons, run_literal, run_seqs_cons]
  refine run_star_greedy hws₂ hstop ?_
  simp only [run_seqs_cons, run_seqs_nil, run_opt] at hc ⊢
  cases hq with
  | inl hq =>
    subst hq
    -- what begins the value is no quotation mark
    have hnone : ∀ k : Cursor → Option Cursor, (Regex.one isQuote).run
        ⟨ws₂.reverse ++ ("url:".toList.reverse ++ (ws₁.reverse ++ '-' :: before)),
          [] ++ r, none⟩ k =
          none := by
      intro k
      cases r with
      | nil => rfl
      | cons x t =>
        rw [List.nil_append, run_one_cons, if_neg]
        intro hx
        refine hr (List.takeWhile_cons_of_neg ?_)
        rw [isValueChar, hx]
        simp
    simp only [hnone, Option.none_or]
    exact hc
  | inr hq =>
    obtain ⟨x, hx, rfl⟩ := hq
    rw [List.singleton_append, run_one_cons, if_pos hx]
    exact Option.or_eq_some_iff.mpr (.inl hc)

/-- What is found is the value of some `- url:`. -/
theorem exists_of_serverUrlPattern {c c' : Cursor} (h : serverUrlPattern.run c some = some c') :
    ∃ ws₁ ws₂ q r, c.after = '-' :: (ws₁ ++ ("url:".toList ++ (ws₂ ++ (q ++ r)))) ∧
      (∀ x ∈ ws₁, Text.isSpace x = true) ∧ (∀ x ∈ ws₂, Text.isSpace x = true) ∧ IsMark q ∧
      r.takeWhile isValueChar ≠ [] ∧ c'.group = some (r.takeWhile isValueChar) := by
  unfold serverUrlPattern valuePattern at h
  simp only [run_seqs_cons, run_seqs_nil, run_opt] at h
  obtain ⟨dash, t₁, hafter₁, hdash, h⟩ := run_one_eq_some h
  obtain ⟨ws₁, t₂, hafter₂, hws₁, h⟩ := exists_of_run_star h
  obtain ⟨t₃, hafter₃, h⟩ := run_literal_eq_some h
  obtain ⟨ws₂, t₄, hafter₄, hws₂, h⟩ := exists_of_run_star h
  -- the quote at the start may be there or not
  obtain ⟨q, r, hq, hafter₅, h⟩ : ∃ q r, IsMark q ∧ t₄ = q ++ r ∧
      ∃ before group, (seqs [.group (plus isValueChar), .opt (.one isQuote)]).run
        ⟨before, r, group⟩ some = some c' := by
    cases Option.or_eq_some_iff.mp h with
    | inl h =>
      obtain ⟨x, t, ht, hx, h⟩ := run_one_eq_some h
      exact ⟨[x], t, .inr ⟨x, hx, rfl⟩, ht, _, _, h⟩
    | inr h => exact ⟨[], t₄, .inl rfl, rfl, _, _, h.2⟩
  obtain ⟨before, group, h⟩ := h
  obtain ⟨hvalue, hgroup⟩ := exists_of_value h
  refine ⟨ws₁, ws₂, q, r, ?_, hws₁, hws₂, hq, hvalue, hgroup⟩
  simp only at hafter₂ hafter₃ hafter₄
  rw [hafter₁, of_decide_eq_true hdash, hafter₂, hafter₃, hafter₄, hafter₅]

/-- The pattern matches where `- url:` and a value stand. -/
private theorem serverUrlPattern_isSome_iff {before s : Text} {group : Option Text} :
    (serverUrlPattern.run ⟨before, s, group⟩ some).isSome = true ↔ NamesServer s := by
  constructor
  · intro h
    obtain ⟨c, hc⟩ := Option.isSome_iff_exists.mp h
    obtain ⟨ws₁, ws₂, q, r, hs, hws₁, hws₂, hq, hvalue, -⟩ := exists_of_serverUrlPattern hc
    -- forwards: the parts matched, and the first character of the url
    cases r with
    | nil => exact absurd rfl hvalue
    | cons a r =>
      refine ⟨ws₁, ws₂, q, a, r, hs, hws₁, hws₂, hq, Decidable.byContradiction fun ha => hvalue ?_⟩
      rw [List.takeWhile_cons_of_neg ha]
  · rintro ⟨ws₁, ws₂, q, a, r, rfl, hws₁, hws₂, hq, ha⟩
    -- backwards: every part of the pattern matches its own
    have hr : (a :: r).takeWhile isValueChar ≠ [] := by
      rw [List.takeWhile_cons_of_pos ha]
      simp
    obtain ⟨c, hc, -⟩ := value_run (q.reverse ++ (ws₂.reverse ++ ("url:".toList.reverse ++
      (ws₁.reverse ++ '-' :: before)))) group hr
    have hsome := Option.isSome_iff_exists.mpr ⟨c, hc⟩
    unfold serverUrlPattern valuePattern
    simp only [run_seqs_cons, run_seqs_nil, run_opt, run_one_cons, decide_true, if_true] at hsome ⊢
    refine run_star_isSome hws₁ ?_
    rw [run_literal]
    refine run_star_isSome hws₂ ?_
    rw [Option.isSome_or, Bool.or_eq_true]
    cases hq with
    | inl hq =>
      subst hq
      exact .inr hsome
    | inr hq =>
      obtain ⟨x, hx, rfl⟩ := hq
      rw [List.singleton_append, run_one_cons, if_pos hx]
      exact .inl hsome

/-- A text that names a server still does with more behind it. -/
theorem NamesServer.append {t : Text} (h : NamesServer t) (u : Text) : NamesServer (t ++ u) := by
  obtain ⟨ws₁, ws₂, q, a, r, rfl, hws₁, hws₂, hq, ha⟩ := h
  refine ⟨ws₁, ws₂, q, a, r ++ u, ?_, hws₁, hws₂, hq, ha⟩
  simp only [List.cons_append, List.append_assoc]

/-- The value of an earlier `- url:` is found no later than at the next `-`. -/
private theorem NamesServer.upTo {t u : Text} (ht : t ≠ []) (h : NamesServer (t ++ '-' :: u)) :
    NamesServer (t ++ ['-']) := by
  obtain ⟨ws₁, ws₂, q, a, r, heq, hws₁, hws₂, hq, ha⟩ := h
  obtain ⟨x, t, rfl⟩ := List.exists_cons_of_ne_nil ht
  obtain ⟨rfl, heq'⟩ := List.cons.inj heq
  -- nothing before the value is a `-`
  have hdash : '-' ∉ ws₁ ++ ("url:".toList ++ (ws₂ ++ q)) := by
    intro h
    rcases List.mem_append.mp h with h | h
    · exact nomatch hws₁ '-' h
    rcases List.mem_append.mp h with h | h
    · exact absurd h (by decide)
    rcases List.mem_append.mp h with h | h
    · exact nomatch hws₂ '-' h
    cases hq with
    | inl hq => exact absurd (hq ▸ h) List.not_mem_nil
    | inr hq =>
      obtain ⟨y, hy, rfl⟩ := hq
      obtain rfl := List.mem_singleton.mp h
      exact nomatch hy
  have hsplit : t ++ '-' :: u = (ws₁ ++ ("url:".toList ++ (ws₂ ++ q))) ++ a :: r := by
    rw [show t ++ '-' :: u = _ from heq']
    simp only [List.append_assoc]
  obtain ⟨r', hr'⟩ : ∃ r', t ++ ['-'] = (ws₁ ++ ("url:".toList ++ (ws₂ ++ q))) ++ r' ∧
      ∃ y r'', r' = y :: r'' ∧ isValueChar y = true := by
    rcases List.append_eq_append_iff.mp hsplit with ⟨m, hm, hrest⟩ | ⟨m, rfl, hrest⟩
    · cases m with
      | nil =>
        rw [List.append_nil] at hm
        exact ⟨['-'], by rw [hm], '-', [], rfl, by decide⟩
      | cons y m =>
        obtain ⟨rfl, -⟩ := List.cons.inj hrest
        exact absurd (hm ▸ List.mem_append_right t List.mem_cons_self) hdash
    · cases m with
      | nil => exact ⟨['-'], by rw [List.append_nil], '-', [], rfl, by decide⟩
      | cons y m =>
        obtain ⟨rfl, -⟩ := List.cons.inj hrest
        exact ⟨a :: m ++ ['-'], by rw [List.append_assoc], a, m ++ ['-'], rfl, ha⟩
  obtain ⟨hr', y, r'', rfl, hy⟩ := hr'
  refine ⟨ws₁, ws₂, q, y, r'', ?_, hws₁, hws₂, hq, hy⟩
  rw [List.cons_append, hr']
  simp only [List.append_assoc]

/-- The first value of a `- url:` is found. -/
theorem matchGroup_serverUrlPattern {lead ws₁ ws₂ q r : Text}
    (hlead : ∀ t₁ t₂, lead = t₁ ++ t₂ → t₂ ≠ [] → ¬NamesServer (t₂ ++ ['-']))
    (hws₁ : ∀ x ∈ ws₁, Text.isSpace x = true) (hws₂ : ∀ x ∈ ws₂, Text.isSpace x = true)
    (hq : IsMark q) (hstop : ∀ x ∈ (q ++ r).head?, Text.isSpace x = false)
    (hr : r.takeWhile isValueChar ≠ []) :
    serverUrlPattern.matchGroup
      (lead ++ '-' :: (ws₁ ++ ("url:".toList ++ (ws₂ ++ (q ++ r))))) =
        some (r.takeWhile isValueChar) := by
  have hsearch : serverUrlPattern.search []
      (lead ++ '-' :: (ws₁ ++ ("url:".toList ++ (ws₂ ++ (q ++ r))))) =
        serverUrlPattern.search (lead.reverse ++ [])
          ('-' :: (ws₁ ++ ("url:".toList ++ (ws₂ ++ (q ++ r))))) := by
    -- nothing before the dash names a server, so the search reaches it
    refine search_append fun t₁ t₂ hsplit hne => ?_
    have hnot : ¬(serverUrlPattern.run ⟨t₁.reverse ++ [], t₂ ++ '-' :: (ws₁ ++ ("url:".toList ++
        (ws₂ ++ (q ++ r)))), none⟩ some).isSome = true :=
      fun h => hlead t₁ t₂ hsplit hne ((serverUrlPattern_isSome_iff.mp h).upTo hne)
    exact Option.not_isSome_iff_eq_none.mp hnot
  obtain ⟨c, hc, hgroup⟩ := serverUrlPattern_run hws₁ hws₂ hq hstop hr
  unfold matchGroup
  rw [hsearch, search_of_run hc]
  exact hgroup

/-- Where the block that is found stands. -/
theorem exists_of_matchGroup_serversPattern {text block : Text}
    (h : serversPattern.matchGroup text = some block) :
    ∃ u ws tail, text = u ++ ("servers:".toList ++ (ws ++ (block ++ tail))) ∧
      (u = [] ∨ ∃ t, u = t ++ ['\n']) ∧ (∀ a ∈ ws, Text.isSpace a = true) ∧
      endsBlock tail = true := by
  obtain ⟨c, hc, hgroup⟩ := Option.bind_eq_some_iff.mp h
  obtain ⟨t, rest, rfl, hrun, -⟩ := exists_of_search hc
  obtain ⟨nl, ws, block', tail, rfl, hnl, hws, hends, hgroup'⟩ := exists_of_serversPattern hrun
  obtain rfl : block' = block := Option.some.inj (hgroup'.symm.trans hgroup)
  refine ⟨t ++ nl, ws, tail, by simp only [List.append_assoc], ?_, hws, hends⟩
  rcases hnl with ⟨rfl, ht⟩ | rfl
  · left
    simpa using ht
  · exact .inr ⟨t, rfl⟩

/-- Where the value that is found stands. -/
theorem exists_of_matchGroup_serverUrlPattern {block value : Text}
    (h : serverUrlPattern.matchGroup block = some value) :
    ∃ lead ws₁ ws₂ q r, block = lead ++ '-' :: (ws₁ ++ ("url:".toList ++ (ws₂ ++ (q ++ r)))) ∧
      (∀ x ∈ ws₁, Text.isSpace x = true) ∧ (∀ x ∈ ws₂, Text.isSpace x = true) ∧ IsMark q ∧
      value = r.takeWhile isValueChar ∧
      ∀ t₁ t₂, lead = t₁ ++ t₂ → t₂ ≠ [] → ¬NamesServer (t₂ ++ ['-']) := by
  obtain ⟨c, hc, hgroup⟩ := Option.bind_eq_some_iff.mp h
  obtain ⟨lead, rest, rfl, hrun, hbefore⟩ := exists_of_search hc
  obtain ⟨ws₁, ws₂, q, r, hrest, hws₁, hws₂, hq, -, hgroup'⟩ := exists_of_serverUrlPattern hrun
  obtain rfl : rest = _ := hrest
  refine ⟨lead, ws₁, ws₂, q, r, rfl, hws₁, hws₂, hq,
    Option.some.inj (hgroup.symm.trans hgroup'), ?_⟩
  intro t₁ t₂ hsplit hne hnames
  have hmatch : (serverUrlPattern.run ⟨t₁.reverse ++ [], t₂ ++ ['-'] ++ (ws₁ ++ ("url:".toList ++
      (ws₂ ++ (q ++ r)))), none⟩ some).isSome = true :=
    serverUrlPattern_isSome_iff.mpr (hnames.append _)
  rw [List.append_assoc, List.singleton_append, hbefore t₁ t₂ hsplit hne] at hmatch
  exact nomatch hmatch

end HivePoint
