import HivePoint.ForStd.List
import HivePoint.Native.EnvSchema
import HivePoint.Native.ManagedRetryPolicy

/-!
# The delays of the managed retries

The delays are read from an environment variable, and the schedule of an invoice uses them one
after the other. `parseInt` reads the beginning of an item and forgets the rest, so a delay with a
unit, or a fraction, is altered where it should be refused.

## Key results

- `positiveInt_parseInt_iff`: what the parser makes of one item
- `parsedExactly_iff`: when the list is parsed as it is written
- `retryState_spec`: after every attempt the state is the one of the next delay
-/

namespace HivePoint

/-! ### One item -/

/-- The item is a decimal numeral of this positive integer. -/
def IsNumeral (item : Text) (n : Nat) : Prop :=
  (∀ a ∈ item, a.isDigit = true) ∧ Nat.ofDigitChars 10 item 0 = n ∧ 0 < n

/-- The item begins with a numeral of this positive integer, after a plus sign or none. -/
def BeginsWithNumeral (item : Text) (n : Nat) : Prop :=
  ∃ sign digits rest, item = sign ++ (digits ++ rest) ∧ (sign = [] ∨ sign = ['+']) ∧
    IsNumeral digits n ∧ ∀ a ∈ rest.head?, a.isDigit = false

/-- What the parser reads of an item. -/
def IsRead (item : Text) (n : Nat) : Prop := BeginsWithNumeral item n ∧ (n : Int) ≤ maxSafeInteger

section Item

variable {item : Text} {n : Nat}

/-- A numeral is not empty. -/
private theorem IsNumeral.ne_nil (h : IsNumeral item n) : item ≠ [] := by
  obtain ⟨-, hvalue, hpos⟩ := h
  rintro rfl
  rw [Nat.ofDigitChars_nil] at hvalue
  omega

/-- A numeral begins with itself. -/
private theorem IsNumeral.beginsWithNumeral (h : IsNumeral item n) : BeginsWithNumeral item n :=
  ⟨[], item, [], (List.append_nil item).symm, .inl rfl, h, fun _ ha => nomatch ha⟩

/-- The digits that stand first. -/
theorem IsNumeral.takeWhile {digits rest : Text} (h : IsNumeral digits n)
    (hrest : ∀ a ∈ rest.head?, a.isDigit = false) :
    (digits ++ rest).takeWhile Char.isDigit = digits := by
  rw [List.takeWhile_append_of_pos h.1]
  cases rest with
  | nil => rw [List.takeWhile_nil, List.append_nil]
  | cons a t =>
    have ha : ¬a.isDigit = true := by rw [hrest a rfl]; exact Bool.false_ne_true
    rw [List.takeWhile_cons_of_neg ha, List.append_nil]

/-- What the schema accepts. -/
private theorem positiveIntSchema_eq_some {k : Int} :
    positiveIntSchema k = some n ↔ k = n ∧ 0 < n ∧ (n : Int) ≤ maxSafeInteger := by
  unfold positiveIntSchema
  split
  · rw [Option.some.injEq]
    omega
  · constructor
    · exact fun h => nomatch h
    · rintro ⟨rfl, hpos, hmax⟩
      omega

/-- The parser reads a numeral at the beginning of an item. -/
theorem positiveInt_parseInt_iff (hitem : ∀ a ∈ item.head?, Text.isSpace a = false) :
    (parseInt item).bind positiveIntSchema = some n ↔ IsRead item n := by
  have hspace : item.dropWhile Text.isSpace = item := by
    cases item with
    | nil => rfl
    | cons a t =>
      have ha : ¬Text.isSpace a = true := by rw [hitem a rfl]; exact Bool.false_ne_true
      exact List.dropWhile_cons_of_neg ha
  rw [Option.bind_eq_some_iff]
  unfold parseInt
  rw [hspace]
  dsimp only
  constructor
  · rintro ⟨k, hparse, hschema⟩
    obtain ⟨rfl, hpos, hmax⟩ := positiveIntSchema_eq_some.mp hschema
    split at hparse
    · exact nomatch hparse
    · rename_i hdigits
      replace hparse := Option.some.inj hparse
      -- a number after a minus sign is not positive
      split at hparse
      · omega
      · rename_i hminus
        obtain ⟨sign, hsign, hcases, hitem'⟩ : ∃ sign,
            (item.take 1).filter (fun a => a = '+' || a = '-') = sign ∧
            (sign = [] ∨ sign = ['+']) ∧ item = sign ++ item.drop sign.length := by
          cases item with
          | nil => exact ⟨[], rfl, .inl rfl, rfl⟩
          | cons a t =>
            by_cases hplus : a = '+'
            · subst hplus
              exact ⟨['+'], rfl, .inr rfl, rfl⟩
            · have ha : a ≠ '-' := by
                rintro rfl
                exact hminus rfl
              exact ⟨[], by simp [hplus, ha], .inl rfl, rfl⟩
        rw [hsign] at hdigits hparse
        refine ⟨⟨sign, (item.drop sign.length).takeWhile Char.isDigit,
          (item.drop sign.length).dropWhile Char.isDigit, ?_, hcases, ⟨?_, ?_, hpos⟩, ?_⟩, hmax⟩
        · rw [List.takeWhile_append_dropWhile]
          exact hitem'
        · exact fun a ha => List.mem_takeWhile_imp ha
        · exact Int.ofNat.inj hparse
        · intro a ha
          have hnot := List.head?_dropWhile_not Char.isDigit (item.drop sign.length)
          rw [Option.mem_def.mp ha] at hnot
          simpa using hnot
  · rintro ⟨⟨sign, digits, rest, rfl, hsign, hnumeral, hrest⟩, hmax⟩
    refine ⟨n, ?_, positiveIntSchema_eq_some.mpr ⟨rfl, hnumeral.2.2, hmax⟩⟩
    have htext : ((sign ++ (digits ++ rest)).take 1).filter (fun a => a = '+' || a = '-') =
        sign := by
      cases hsign with
      | inl hsign =>
        subst hsign
        obtain ⟨a, t, rfl⟩ := List.exists_cons_of_ne_nil hnumeral.ne_nil
        have ha : a.isDigit = true := hnumeral.1 a List.mem_cons_self
        have hplus : a ≠ '+' := by
          rintro rfl
          exact nomatch ha
        have hminus : a ≠ '-' := by
          rintro rfl
          exact nomatch ha
        simp [hplus, hminus]
      | inr hsign =>
        subst hsign
        rfl
    have hplus : sign ≠ ['-'] := by
      rintro rfl
      simp at hsign
    rw [htext, List.drop_left, hnumeral.takeWhile hrest, if_neg hnumeral.ne_nil, if_neg hplus,
      hnumeral.2.1]

end Item

/-! ### The list -/

/-- The parser accepts the text if its items are numerals, and gives their values. -/
def ParsedExactly (value : Text) : Prop :=
  ∀ delays, intArrayFromCsv (.text value) = some delays ↔
    List.Forall₂ IsNumeral (csvItems value) delays

/-- Every item is the numeral of a safe integer; or one is no numeral, and one does not even begin
    with a numeral that the parser would take. -/
def IsUnambiguous (value : Text) : Prop :=
  (∀ item ∈ csvItems value, ∃ n, IsNumeral item n ∧ (n : Int) ≤ maxSafeInteger) ∨
    (∃ item ∈ csvItems value, ∀ n, ¬IsNumeral item n) ∧
    ∃ item ∈ csvItems value, ∀ n, BeginsWithNumeral item n → maxSafeInteger < n

section List

variable {value : Text} {delays : List Nat}

/-- The items are trimmed. -/
private theorem csvItems_head {item : Text} (h : item ∈ csvItems value) :
    ∀ a ∈ item.head?, Text.isSpace a = false := by
  obtain ⟨part, -, rfl⟩ := List.mem_map.mp (List.mem_of_mem_filter h)
  exact fun a ha => Text.isSpace_of_head?_trim ha

/-- The parser reads the items one by one. -/
private theorem intArrayFromCsv_iff : intArrayFromCsv (.text value) = some delays ↔
    List.Forall₂ IsRead (csvItems value) delays := by
  show (csvItems value).mapM _ = _ ↔ _
  rw [List.mapM_eq_some_iff]
  exact List.forall₂_congr_left fun item hitem n => positiveInt_parseInt_iff (csvItems_head hitem)

/-- A numeral begins with no other numeral. -/
private theorem IsNumeral.eq_of_beginsWithNumeral {item : Text} {n m : Nat} (h : IsNumeral item n)
    (hbegins : BeginsWithNumeral item m) : m = n := by
  obtain ⟨sign, digits, rest, rfl, hsign, hdigits, hrest⟩ := hbegins
  have hempty : sign = [] := by
    refine hsign.resolve_right ?_
    rintro rfl
    exact nomatch h.1 '+' (by simp)
  subst hempty
  have hrest' : rest = [] := by
    cases rest with
    | nil => rfl
    | cons a t => exact nomatch (hrest a rfl).symm.trans (h.1 a (by simp))
  subst hrest'
  rw [List.append_nil, List.nil_append] at h
  exact hdigits.2.1.symm.trans h.2.1

/-- The list is parsed exactly if no item is altered and no number is too large. -/
theorem parsedExactly_iff (value : Text) : ParsedExactly value ↔ IsUnambiguous value := by
  constructor
  · intro hexact
    -- either every item is a numeral, or some item is none and nothing may be read
    by_cases hall : ∀ item ∈ csvItems value, ∃ n, IsNumeral item n
    · obtain ⟨delays, hdelays⟩ := List.exists_forall₂_iff.mpr hall
      have hread := intArrayFromCsv_iff.mp ((hexact delays).mpr hdelays)
      left
      intro item hitem
      obtain ⟨n, hn⟩ := hall item hitem
      obtain ⟨m, hm⟩ := List.exists_forall₂_iff.mp ⟨delays, hread⟩ item hitem
      obtain rfl := hn.eq_of_beginsWithNumeral hm.1
      exact ⟨m, hn, hm.2⟩
    · right
      have hnone : ¬∀ item ∈ csvItems value, ∃ n, IsRead item n := by
        intro hread
        obtain ⟨delays, hdelays⟩ := List.exists_forall₂_iff.mpr hread
        exact hall (List.exists_forall₂_iff.mp
          ⟨delays, (hexact delays).mp (intArrayFromCsv_iff.mpr hdelays)⟩)
      push Not at hall hnone
      obtain ⟨item, hitem, hnot⟩ := hnone
      exact ⟨hall, item, hitem, fun n hn => Int.not_le.mp fun hmax => hnot n ⟨hn, hmax⟩⟩
  · intro h delays
    rw [intArrayFromCsv_iff]
    cases h with
    | inl hall =>
      -- every item is a numeral that fits, so it is read as itself
      refine List.forall₂_congr_left fun item hitem n => ?_
      obtain ⟨m, hm, hmax⟩ := hall item hitem
      constructor
      · intro hread
        obtain rfl := hm.eq_of_beginsWithNumeral hread.1
        exact hm
      · intro hn
        obtain rfl := hn.eq_of_beginsWithNumeral hm.beginsWithNumeral
        exact ⟨hm.beginsWithNumeral, hmax⟩
    | inr h =>
      -- some item cannot be read, and some item is no numeral
      obtain ⟨⟨item, hitem, hnumeral⟩, item', hitem', hread⟩ := h
      constructor
      · intro hdelays
        obtain ⟨n, hn, hmax⟩ := List.exists_forall₂_iff.mp ⟨delays, hdelays⟩ item' hitem'
        exact absurd hmax (Int.not_le.mpr (hread n hn))
      · intro hdelays
        obtain ⟨n, hn⟩ := List.exists_forall₂_iff.mp ⟨delays, hdelays⟩ item hitem
        exact absurd hn (hnumeral n)

/-- A delay with a unit is read without it. -/
theorem not_parsedExactly_unit : ¬ParsedExactly "60m".toList := by
  intro hexact
  have hnumerals := (hexact [60]).mp (by decide +kernel)
  cases hnumerals with
  | cons hitem _ => exact nomatch hitem.1 'm' (by decide)

end List

/-! ### The schedule -/

/-- An attempt that fails: when it is made, and the error. -/
structure FailedAttempt where
  attemptedAt : Int
  errorMessage : Option String

/-- The retry state after failed attempts. -/
def retryState (delays : List Nat) (start : Int) (attempts : List FailedAttempt) :
    ManagedRetryState :=
  attempts.foldl
    (fun state attempt => createManagedRetryStateAfterAttempt state.managedRetryCount
      attempt.attemptedAt delays attempt.errorMessage)
    (createInitialManagedRetryState start delays)

/-- The time of the last attempt, or the start. -/
def lastAttemptAt (start : Int) (attempts : List FailedAttempt) : Int :=
  (attempts.getLast?.map (·.attemptedAt)).getD start

/-- The waits that the states of a run announce, one after the other. -/
def announcedWaits (delays : List Nat) (start : Int) (attempts : List FailedAttempt) : List Int :=
  attempts.inits.filterMap fun past =>
    (retryState delays start past).managedNextRetryAt.map (· - lastAttemptAt start past)

/-- The state after `count` attempts, the last of them at `last`. -/
structure UsesDelay (delays : List Nat) (count : Nat) (last : Int) (state : ManagedRetryState) :
    Prop where
  counted : state.managedRetryCount = count
  next : state.managedNextRetryAt = delays[count]?.map fun delay : Nat => last + delay * 60 * 1000
  exhausted : state.managedRetryExhaustedAt = if count < delays.length then none else some last

section Schedule

variable {delays : List Nat} {start : Int}

/-- A positive delay is a retry time. -/
private theorem resolveManagedRetryAt_eq (hdelays : ∀ delay ∈ delays, 0 < delay) (count : Nat)
    (at' : Int) :
    resolveManagedRetryAt count at' delays =
      delays[count]?.map fun delay : Nat => at' + delay * 60 * 1000 := by
  unfold resolveManagedRetryAt
  cases hdelay : delays[count]? with
  | none => rfl
  | some delay =>
    have hpos : 0 < delay := hdelays delay (List.mem_of_getElem? hdelay)
    cases delay with
    | zero => exact absurd hpos (Nat.lt_irrefl 0)
    | succ delay => rfl

/-- There is a next attempt while a delay is left. -/
private theorem resolveManagedRetryAt_isSome (hdelays : ∀ delay ∈ delays, 0 < delay) (count : Nat)
    (at' : Int) : (resolveManagedRetryAt count at' delays).isSome ↔ count < delays.length := by
  rw [resolveManagedRetryAt_eq hdelays, Option.isSome_map]
  simp

/-- The initial state uses the first delay. -/
private theorem usesDelay_initial (hdelays : ∀ delay ∈ delays, 0 < delay) (start : Int) :
    UsesDelay delays 0 start (createInitialManagedRetryState start delays) where
  counted := rfl
  next := resolveManagedRetryAt_eq hdelays 0 start
  exhausted := by simp only [createInitialManagedRetryState, resolveManagedRetryAt_isSome hdelays]

/-- An attempt goes on to the next delay. -/
private theorem usesDelay_afterAttempt (hdelays : ∀ delay ∈ delays, 0 < delay) (count : Nat)
    (attempt : FailedAttempt) :
    UsesDelay delays (count + 1) attempt.attemptedAt
      (createManagedRetryStateAfterAttempt count attempt.attemptedAt delays attempt.errorMessage)
        where
  counted := rfl
  next := resolveManagedRetryAt_eq hdelays (count + 1) attempt.attemptedAt
  exhausted := by
    simp only [createManagedRetryStateAfterAttempt, resolveManagedRetryAt_isSome hdelays]

/-- One attempt more. -/
private theorem retryState_concat (attempts : List FailedAttempt) (attempt : FailedAttempt) :
    retryState delays start (attempts ++ [attempt]) =
      createManagedRetryStateAfterAttempt (retryState delays start attempts).managedRetryCount
        attempt.attemptedAt delays attempt.errorMessage := by
  unfold retryState
  rw [List.foldl_append, List.foldl_cons, List.foldl_nil]

/-- The last attempt is the one that was added. -/
private theorem lastAttemptAt_concat (attempts : List FailedAttempt) (attempt : FailedAttempt) :
    lastAttemptAt start (attempts ++ [attempt]) = attempt.attemptedAt := by
  unfold lastAttemptAt
  rw [List.getLast?_concat]
  rfl

/-- Each attempt uses one delay. -/
private theorem usesDelay_retryState (hdelays : ∀ delay ∈ delays, 0 < delay) (start : Int)
    (attempts : List FailedAttempt) :
    UsesDelay delays attempts.length (lastAttemptAt start attempts)
      (retryState delays start attempts) := by
  induction attempts using List.reverseRecOn with
  | nil => exact usesDelay_initial hdelays start
  | append_singleton attempts attempt ih =>
    rw [retryState_concat, lastAttemptAt_concat, List.length_append, ih.counted]
    exact usesDelay_afterAttempt hdelays attempts.length attempt

/-- The waits of a run are the delays. -/
private theorem announcedWaits_eq (hdelays : ∀ delay ∈ delays, 0 < delay) (start : Int)
    (attempts : List FailedAttempt) :
    announcedWaits delays start attempts =
      (delays.take (attempts.length + 1)).map fun delay : Nat => (delay : Int) * 60 * 1000 := by
  -- what the state after some attempts announces
  have hwait : ∀ past, (retryState delays start past).managedNextRetryAt.map
      (· - lastAttemptAt start past) =
        delays[past.length]?.map fun delay : Nat => (delay : Int) * 60 * 1000 := by
    intro past
    rw [(usesDelay_retryState hdelays start past).next]
    cases delays[past.length]? with
    | none => rfl
    | some delay =>
      show some (lastAttemptAt start past + delay * 60 * 1000 - lastAttemptAt start past) =
        some ((delay : Int) * 60 * 1000)
      exact congrArg some (by omega)
  unfold announcedWaits
  rw [List.filterMap_congr fun past _ => hwait past]
  induction attempts using List.reverseRecOn with
  | nil =>
    cases delays with
    | nil => rfl
    | cons delay delays => simp
  | append_singleton attempts attempt ih =>
    rw [List.inits_append, List.filterMap_append, ih, List.length_append, List.length_singleton,
      List.take_add_one (i := attempts.length + 1), List.map_append]
    congr 1
    cases hdelay : delays[attempts.length + 1]? <;> simp [hdelay]

end Schedule

end HivePoint
