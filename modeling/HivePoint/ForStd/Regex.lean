import HivePoint.ForStd.Text

/-!
# Regular expressions

Regular expressions of ECMAScript with repeated characters, one group, and the assertions `^` and
`$`. They are matched by backtracking, in the continuation style of the language's
specification: a matcher hands on each cursor that it can reach, in the order of its choices,
until the continuation takes one.

## Key results

- `Regex.run_literal`, `Regex.run_star_greedy`: what is matched where there is no choice
- `Regex.exists_of_run_star`, `Regex.run_star_isSome`: what a repetition can hand on
- `Regex.search_append`: a search passes over a text in which no match begins
-/

/-- Where a match stands in the text. -/
structure Cursor where
  /-- the characters before it, latest first -/
  before : Text
  after : Text
  /-- what the group has matched -/
  group : Option Text

inductive Regex where
  | empty
  /-- a character of a class -/
  | one (p : Char → Bool)
  /-- `*` of a class, or `*?` -/
  | star (greedy : Bool) (p : Char → Bool)
  /-- `?` -/
  | opt (r : Regex)
  | seq (r s : Regex)
  /-- `|` -/
  | alt (r s : Regex)
  /-- `( )` -/
  | group (r : Regex)
  /-- `^`, under the flag `m` or not -/
  | start (multiline : Bool)
  /-- `$`, under the flag `m` or not -/
  | stop (multiline : Bool)

namespace Regex

variable {β : Type}

/-- `LineTerminator` -/
def isLineTerminator (a : Char) : Bool := [0xa, 0xd, 0x2028, 0x2029].contains a.toNat

/-- Take one more character of the class, or hand on the cursor. -/
def runStar (greedy : Bool) (p : Char → Bool) (k : Cursor → Option β) (group : Option Text) :
    Text → Text → Option β
  | before, [] => k ⟨before, [], group⟩
  | before, a :: after =>
    let more := if p a then runStar greedy p k group (a :: before) after else none
    let here := k ⟨before, a :: after, group⟩
    if greedy then more.or here else here.or more

/-- Match at the cursor, and hand on. -/
def run : Regex → Cursor → (Cursor → Option β) → Option β
  | .empty, c, k => k c
  | .one p, c, k =>
    match c.after with
    | [] => none
    | a :: after => if p a then k ⟨a :: c.before, after, c.group⟩ else none
  | .star greedy p, c, k => runStar greedy p k c.group c.before c.after
  | .opt r, c, k => (r.run c k).or (k c)
  | .seq r s, c, k => r.run c fun c' => s.run c' k
  | .alt r s, c, k => (r.run c k).or (s.run c k)
  | .group r, c, k =>
    r.run c fun c' => k { c' with group := some (c.after.take (c.after.length - c'.after.length)) }
  | .start multiline, c, k =>
    if c.before = [] ∨ multiline ∧ c.before.head?.any isLineTerminator then k c else none
  | .stop multiline, c, k =>
    if c.after = [] ∨ multiline ∧ c.after.head?.any isLineTerminator then k c else none

/-- The match that begins first. -/
def search (r : Regex) : Text → Text → Option Cursor
  | before, [] => r.run ⟨before, [], none⟩ some
  | before, a :: after => (r.run ⟨before, a :: after, none⟩ some).or (search r (a :: before) after)

/-- `text.match(r)?.[1]` -/
def matchGroup (r : Regex) (text : Text) : Option Text := (search r [] text).bind (·.group)

/-- One after the other. -/
def seqs : List Regex → Regex
  | [] => .empty
  | r :: rs => .seq r (seqs rs)

/-- The characters of a text, one after the other. -/
def literal (t : Text) : Regex := seqs (t.map fun a => .one (· = a))

/-- `+` of a class -/
def plus (p : Char → Bool) : Regex := .seq (.one p) (.star true p)

/-! ### What is matched without a choice -/

section Run

variable {c : Cursor} {k : Cursor → Option β} {p : Char → Bool} {r s : Regex} {b : β}

/-- The empty expression matches where it stands. -/
@[simp] theorem run_empty : Regex.empty.run c k = k c := rfl

/-- The second expression matches where the first ends. -/
@[simp] theorem run_seq : (Regex.seq r s).run c k = r.run c fun c' => s.run c' k := rfl

/-- The first alternative is tried first. -/
@[simp] theorem run_alt : (Regex.alt r s).run c k = (r.run c k).or (s.run c k) := rfl

/-- An optional expression is tried first. -/
@[simp] theorem run_opt : (Regex.opt r).run c k = (r.run c k).or (k c) := rfl

/-- A group remembers what its expression matched. -/
@[simp] theorem run_group : (Regex.group r).run c k = r.run c fun c' =>
    k { c' with group := some (c.after.take (c.after.length - c'.after.length)) } := rfl

/-- A start is at the beginning, or behind a line terminator. -/
@[simp] theorem run_start {m : Bool} : (Regex.start m).run c k =
    if c.before = [] ∨ m ∧ c.before.head?.any isLineTerminator then k c else none := rfl

/-- A stop is at the end, or before a line terminator. -/
@[simp] theorem run_stop {m : Bool} : (Regex.stop m).run c k =
    if c.after = [] ∨ m ∧ c.after.head?.any isLineTerminator then k c else none := rfl

/-- An empty sequence matches where it stands. -/
@[simp] theorem run_seqs_nil : (seqs []).run c k = k c := rfl

/-- A sequence matches one expression after another. -/
@[simp] theorem run_seqs_cons {rs : List Regex} :
    (seqs (r :: rs)).run c k = r.run c fun c' => (seqs rs).run c' k := rfl

/-- No character is left to match. -/
@[simp] theorem run_one_nil {before : Text} {group : Option Text} :
    (Regex.one p).run ⟨before, [], group⟩ k = none := rfl

/-- A character is matched if it passes the test. -/
@[simp] theorem run_one_cons {before after : Text} {a : Char} {group : Option Text} :
    (Regex.one p).run ⟨before, a :: after, group⟩ k =
      if p a then k ⟨a :: before, after, group⟩ else none := rfl

/-- A matched character stands at the cursor. -/
theorem run_one_eq_some (h : (Regex.one p).run c k = some b) :
    ∃ a after, c.after = a :: after ∧ p a = true ∧ k ⟨a :: c.before, after, c.group⟩ = some b := by
  obtain ⟨before, after, group⟩ := c
  cases after with
  | nil => exact nomatch h
  | cons a after =>
    rw [run_one_cons] at h
    split at h
    · rename_i ha
      exact ⟨a, after, rfl, ha, h⟩
    · exact nomatch h

/-- A literal matches its own text. -/
theorem run_literal (t : Text) {before after : Text} {group : Option Text} :
    (literal t).run ⟨before, t ++ after, group⟩ k = k ⟨t.reverse ++ before, after, group⟩ := by
  induction t generalizing before with
  | nil => rfl
  | cons a t ih =>
    show (Regex.one (· = a)).run ⟨before, a :: (t ++ after), group⟩
      (fun c' => (literal t).run c' k) = _
    rw [run_one_cons, if_pos (decide_eq_true rfl), ih, List.reverse_cons, List.append_assoc]
    rfl

/-- A literal is matched where the text goes on with it. -/
theorem run_literal_eq_some {t : Text} (h : (literal t).run c k = some b) :
    ∃ after, c.after = t ++ after ∧ k ⟨t.reverse ++ c.before, after, c.group⟩ = some b := by
  induction t generalizing c with
  | nil => exact ⟨c.after, rfl, h⟩
  | cons a t ih =>
    obtain ⟨a', after, hafter, ha, hrest⟩ :=
      run_one_eq_some (show (Regex.one (· = a)).run c (fun c' => (literal t).run c' k) =
        some b from h)
    obtain rfl : a' = a := of_decide_eq_true ha
    obtain ⟨after', rfl, hk⟩ := ih hrest
    refine ⟨after', hafter, ?_⟩
    rw [List.reverse_cons, List.append_assoc]
    exact hk

/-! ### Repetitions -/

/-- A greedy repetition hands on the farthest cursor first. -/
theorem run_star_greedy {xs before after : Text} {group : Option Text} (hxs : ∀ a ∈ xs, p a = true)
    (hafter : ∀ a ∈ after.head?, p a = false)
    (hk : k ⟨xs.reverse ++ before, after, group⟩ = some b) :
    (Regex.star true p).run ⟨before, xs ++ after, group⟩ k = some b := by
  show runStar true p k group before (xs ++ after) = some b
  induction xs generalizing before with
  | nil =>
    cases after with
    | nil => exact hk
    | cons a after =>
      have ha : p a = false := hafter a rfl
      simp only [List.nil_append, runStar, ha, Bool.false_eq_true, if_false, if_true,
        Option.none_or]
      exact hk
  | cons x xs ih =>
    have hx : p x = true := hxs x List.mem_cons_self
    rw [List.reverse_cons, List.append_assoc, List.singleton_append] at hk
    simp only [List.cons_append, runStar, hx, if_true]
    rw [ih (fun a ha => hxs a (List.mem_cons_of_mem _ ha)) hk, Option.some_or]

/-- A greedy repetition takes all that is in its class. -/
theorem run_star_span {before after : Text} {group : Option Text}
    (hk : k ⟨(after.takeWhile p).reverse ++ before, after.dropWhile p, group⟩ = some b) :
    (Regex.star true p).run ⟨before, after, group⟩ k = some b := by
  have hstop : ∀ a ∈ (after.dropWhile p).head?, p a = false := by
    intro a ha
    have hnot := List.head?_dropWhile_not p after
    rw [Option.mem_def.mp ha] at hnot
    simpa using hnot
  have hstar := run_star_greedy (fun a ha => List.mem_takeWhile_imp ha) hstop hk
  rwa [List.takeWhile_append_dropWhile] at hstar

/-- What a repetition hands on. -/
theorem exists_of_run_star {greedy : Bool} (h : (Regex.star greedy p).run c k = some b) :
    ∃ xs after, c.after = xs ++ after ∧ (∀ a ∈ xs, p a = true) ∧
      k ⟨xs.reverse ++ c.before, after, c.group⟩ = some b := by
  obtain ⟨before, after, group⟩ := c
  change runStar greedy p k group before after = some b at h
  induction after generalizing before with
  | nil => exact ⟨[], [], rfl, (fun _ ha => nomatch ha), h⟩
  | cons a after ih =>
    -- the two ways on: one character more, or the continuation here
    have hmore : (if p a then runStar greedy p k group (a :: before) after else none) = some b →
        ∃ xs rest, a :: after = xs ++ rest ∧ (∀ a ∈ xs, p a = true) ∧
          k ⟨xs.reverse ++ before, rest, group⟩ = some b := by
      intro hmore
      split at hmore
      · rename_i ha
        obtain ⟨xs, rest, hafter, hxs, hk⟩ := ih (a :: before) hmore
        refine ⟨a :: xs, rest, by rw [List.cons_append]; exact congrArg _ hafter, ?_, ?_⟩
        · exact List.forall_mem_cons.mpr ⟨ha, hxs⟩
        · rw [List.reverse_cons, List.append_assoc]
          exact hk
      · exact nomatch hmore
    have hhere : k ⟨before, a :: after, group⟩ = some b →
        ∃ xs rest, a :: after = xs ++ rest ∧ (∀ a ∈ xs, p a = true) ∧
          k ⟨xs.reverse ++ before, rest, group⟩ = some b :=
      fun hk => ⟨[], a :: after, rfl, (fun _ ha => nomatch ha), hk⟩
    -- a greedy star tries one character more first, a lazy one the continuation
    cases greedy with
    | true =>
      rcases Option.or_eq_some_iff.mp h with h | ⟨-, h⟩
      · exact hmore h
      · exact hhere h
    | false =>
      rcases Option.or_eq_some_iff.mp h with h | ⟨-, h⟩
      · exact hhere h
      · exact hmore h

/-- A repetition finds what the continuation takes. -/
theorem run_star_isSome {greedy : Bool} {xs before after : Text} {group : Option Text}
    (hxs : ∀ a ∈ xs, p a = true) (hk : (k ⟨xs.reverse ++ before, after, group⟩).isSome) :
    ((Regex.star greedy p).run ⟨before, xs ++ after, group⟩ k).isSome := by
  show (runStar greedy p k group before (xs ++ after)).isSome
  induction xs generalizing before with
  | nil =>
    cases after with
    | nil => exact hk
    | cons a after =>
      change (k ⟨before, a :: after, group⟩).isSome = true at hk
      cases greedy <;> simp [runStar, hk]
  | cons x xs ih =>
    have hx : p x = true := hxs x List.mem_cons_self
    rw [List.reverse_cons, List.append_assoc, List.singleton_append] at hk
    have hmore := ih (fun a ha => hxs a (List.mem_cons_of_mem _ ha)) hk
    cases greedy <;> simp [runStar, hx, hmore]

end Run

/-! ### Searching -/

section Search

variable {r : Regex}

/-- A search passes over a text in which no match begins. -/
theorem search_append {before t after : Text}
    (h : ∀ t₁ t₂, t = t₁ ++ t₂ → t₂ ≠ [] →
      r.run ⟨t₁.reverse ++ before, t₂ ++ after, none⟩ (some : Cursor → Option Cursor) = none) :
    search r before (t ++ after) = search r (t.reverse ++ before) after := by
  induction t generalizing before with
  | nil => rfl
  | cons a t ih =>
    have hhere := h [] (a :: t) rfl (by simp)
    rw [List.cons_append, search, show r.run ⟨before, a :: (t ++ after), none⟩ some =
      none from hhere,
      Option.none_or, ih, List.reverse_cons, List.append_assoc]
    · rfl
    · intro t₁ t₂ ht hne
      have := h (a :: t₁) t₂ (by rw [ht, List.cons_append]) hne
      rwa [List.reverse_cons, List.append_assoc] at this

/-- A match at the beginning is found. -/
theorem search_of_run {before after : Text} {c : Cursor}
    (h : r.run ⟨before, after, none⟩ some = some c) :
    search r before after = some c := by
  cases after with
  | nil => exact h
  | cons a after => rw [search, h, Option.some_or]

/-- Where a match is found, and where it is not found before. -/
theorem exists_of_search {before after : Text} {c : Cursor} (h : search r before after = some c) :
    ∃ t rest, after = t ++ rest ∧ r.run ⟨t.reverse ++ before, rest, none⟩ some = some c ∧
      ∀ t₁ t₂, t = t₁ ++ t₂ → t₂ ≠ [] →
        r.run ⟨t₁.reverse ++ before, t₂ ++ rest, none⟩ (some : Cursor → Option Cursor) = none := by
  induction after generalizing before with
  | nil =>
    exact ⟨[], [], rfl, h, fun t₁ t₂ ht hne => absurd (List.append_eq_nil_iff.mp ht.symm).2 hne⟩
  | cons a after ih =>
    rw [search] at h
    -- either the expression matches here, or the search goes on one character later
    cases hhere : r.run ⟨before, a :: after, none⟩ (some : Cursor → Option Cursor) with
    | some c' =>
      rw [hhere, Option.some_or] at h
      exact ⟨[], a :: after, rfl, hhere.trans h,
        fun t₁ t₂ ht hne => absurd (List.append_eq_nil_iff.mp ht.symm).2 hne⟩
    | none =>
      rw [hhere, Option.none_or] at h
      obtain ⟨t, rest, rfl, hrun, hbefore⟩ := ih h
      refine ⟨a :: t, rest, rfl, by rwa [List.reverse_cons, List.append_assoc], ?_⟩
      intro t₁ t₂ ht hne
      -- an earlier start is this position, or one that the search also passed
      cases t₁ with
      | nil =>
        obtain rfl : t₂ = a :: t := ht.symm
        exact hhere
      | cons x t₁ =>
        obtain ⟨rfl, rfl⟩ := List.cons.inj ht
        rw [List.reverse_cons, List.append_assoc]
        exact hbefore t₁ t₂ rfl hne

end Search

end Regex
