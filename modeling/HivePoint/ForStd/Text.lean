import Mathlib
/-!
# Texts

A text whose single characters matter is the list of them. The operations are those of
ECMAScript strings under their names there.
-/

abbrev Text := List Char

namespace Text

/-- `WhiteSpace` and `LineTerminator`. -/
def isSpace (c : Char) : Bool :=
  [0x9, 0xa, 0xb, 0xc, 0xd, 0x20, 0xa0, 0x1680, 0x2028, 0x2029, 0x202f, 0x205f, 0x3000,
    0xfeff].contains c.toNat || (0x2000 ≤ c.toNat && c.toNat ≤ 0x200a)

/-- `text.trim()` -/
def trim (t : Text) : Text := ((t.dropWhile isSpace).reverse.dropWhile isSpace).reverse

/-- `text.length`: a character outside the basic plane counts twice. -/
def utf16Length (t : Text) : Nat := (t.map fun c => if c.toNat < 0x10000 then 1 else 2).sum

/-- `text.toLowerCase()`, up to characters that are not ASCII before and after. -/
def toLowerCase (t : Text) : Text := t.map Char.toLower

/-- `text.startsWith(p)` -/
def startsWith (t p : Text) : Bool := p.isPrefixOf t

/-- `text.endsWith(p)` -/
def endsWith (t p : Text) : Bool := p.isSuffixOf t

/-- A text without blanks is trimmed. -/
theorem trim_of_no_space {t : Text} (h : ∀ c ∈ t, ¬isSpace c) : trim t = t := by
  have hdrop : ∀ s : Text, (∀ c ∈ s, ¬isSpace c) → s.dropWhile isSpace = s := by
    intro s hs
    cases s with
    | nil => rfl
    | cons c s => rw [List.dropWhile_cons_of_neg (hs c List.mem_cons_self)]
  unfold trim
  rw [hdrop t h, hdrop _ fun c hc => h c (List.mem_reverse.mp hc), List.reverse_reverse]

/-- A trimmed text does not begin with a blank. -/
theorem isSpace_of_head?_trim {t : Text} {a : Char} (h : (trim t).head? = some a) :
    isSpace a = false := by
  have hpre : trim t <+: t.dropWhile isSpace := by
    unfold trim
    rw [← List.reverse_suffix, List.reverse_reverse]
    exact List.dropWhile_suffix _
  obtain ⟨tail, htail⟩ := hpre
  have hhead : (t.dropWhile isSpace).head? = some a := by
    rw [← htail, List.head?_append, h, Option.some_or]
  have hnot := List.head?_dropWhile_not isSpace t
  rw [hhead] at hnot
  simpa using hnot

/-- A trimmed text does not end in a blank. -/
theorem isSpace_of_getLast?_trim {t : Text} {a : Char} (h : (trim t).getLast? = some a) :
    isSpace a = false := by
  unfold trim at h
  rw [List.getLast?_reverse] at h
  have hnot := List.head?_dropWhile_not isSpace (t.dropWhile isSpace).reverse
  rw [h] at hnot
  simpa using hnot

/-- What `trim` takes away. -/
theorem exists_of_trim (t : Text) : ∃ s₁ s₂, t = s₁ ++ (trim t ++ s₂) ∧
    (∀ a ∈ s₁, isSpace a = true) ∧ ∀ a ∈ s₂, isSpace a = true := by
  have hspaces : ∀ u : Text, ∀ a ∈ u.takeWhile isSpace, isSpace a = true := by
    intro u
    exact List.all_eq_true.mp List.all_takeWhile
  refine ⟨t.takeWhile isSpace, ((t.dropWhile isSpace).reverse.takeWhile isSpace).reverse, ?_,
    hspaces t, fun a ha => hspaces _ a (List.mem_reverse.mp ha)⟩
  unfold trim
  rw [← List.reverse_append, List.takeWhile_append_dropWhile, List.reverse_reverse,
    List.takeWhile_append_dropWhile]

/-- Blanks at the end do not matter to `trim`. -/
theorem trim_append_of_space {t s : Text} (hs : ∀ a ∈ s, isSpace a = true) :
    trim (t ++ s) = trim t := by
  unfold trim
  rw [List.dropWhile_append]
  split
  · rename_i hempty
    have hdrop : s.dropWhile isSpace = [] := by
      rw [← List.append_nil s, List.dropWhile_append_of_pos hs]
      rfl
    rw [List.isEmpty_iff.mp hempty, hdrop]
  · have hreverse : ∀ a ∈ s.reverse, isSpace a = true := fun a ha => hs a (List.mem_reverse.mp ha)
    rw [List.reverse_append, List.dropWhile_append_of_pos hreverse]

/-- A text in lower case is its own lower case. -/
theorem toLowerCase_of_lower {t : Text} (h : ∀ c ∈ t, c.toLower = c) : toLowerCase t = t := by
  unfold toLowerCase
  rw [List.map_congr_left h, List.map_id']

end Text
