import HivePoint.ForStd.Text

/-!
# URLs

The record that the WHATWG URL parser builds of an absolute `http` or `https` URL, and its
pathname setter: the path is cut at slashes and backslashes, every segment is percent-encoded,
and dot segments are resolved.

## Key results

- `pathText_prefix_iff`: one path lies under another if its segments begin with the other's
- `addSegments_eq_climb`: what dot segments leave of the segments before them
-/

namespace Url

/-! ### Segments -/

/-- The path percent-encode set: controls and what is not ASCII, the space, the quotation mark,
the hash sign, the angle brackets, the question mark, the caret, the backtick and the braces. -/
def inPathSet (c : Char) : Bool :=
  c.toNat < 0x20 || 0x7e < c.toNat ||
    [0x20, 0x22, 0x23, 0x3c, 0x3e, 0x3f, 0x5e, 0x60, 0x7b, 0x7d].contains c.toNat

def percentEncodeByte (b : UInt8) : Text :=
  ['%', (Nat.digitChar (b.toNat / 16)).toUpper, (Nat.digitChar (b.toNat % 16)).toUpper]

/-- UTF-8 percent-encoding with the path set. -/
def encodeSegment (s : Text) : Text :=
  s.flatMap fun c =>
    if inPathSet c then (String.utf8EncodeChar c).flatMap percentEncodeByte else [c]

def isSlash (c : Char) : Bool := c = '/' || c = '\\'

/-- `.` with its `%2e` spelling -/
def isSingleDot (s : Text) : Bool := [".".toList, "%2e".toList].contains s.toLowerCase

/-- `..` with its `%2e` spellings -/
def isDoubleDot (s : Text) : Bool :=
  ["..".toList, ".%2e".toList, "%2e.".toList, "%2e%2e".toList].contains s.toLowerCase

/-- A segment of a parsed path. -/
def isSegment (s : Text) : Bool :=
  s.all (fun c => !inPathSet c && !isSlash c) && !isSingleDot s && !isDoubleDot s

end Url

structure Url where
  /-- with its colon -/
  protocol : Text
  username : Text
  password : Text
  hostname : Text
  port : Option Nat
  path : List Text
  path_ne_nil : path ≠ []
  isSegment_of_mem_path : ∀ s ∈ path, Url.isSegment s
  /-- without its question mark -/
  query : Option Text
  /-- without its hash sign -/
  fragment : Option Text
  deriving DecidableEq

namespace Url

/-- The segments, each after a slash. -/
def pathText (segments : List Text) : Text := segments.flatMap fun s => '/' :: s

/-- A path starts with a slash and its first segment. -/
private theorem pathText_cons (s : Text) (segments : List Text) :
    pathText (s :: segments) = '/' :: (s ++ pathText segments) := rfl

/-- `url.pathname` -/
def pathname (url : Url) : Text := pathText url.path

/-! ### The pathname setter -/

/-- The path state at the end of the segment `s`. -/
def addSegment (last : Bool) (path : List Text) (s : Text) : List Text :=
  if isDoubleDot s then if last then path.dropLast ++ [[]] else path.dropLast
  else if isSingleDot s then if last then path ++ [[]] else path
  else path ++ [s]

def addSegments (path : List Text) : List Text → List Text
  | [] => path
  | [s] => addSegment true path s
  | s :: rest => addSegments (addSegment false path s) rest

/-- The parser drops tabs and newlines before it starts. -/
def isTabOrNewline (c : Char) : Bool := c = '\t' || c = '\n' || c = '\r'

/-- The text after the slash it may begin with. -/
def dropSlash : Text → Text
  | c :: rest => if isSlash c then rest else c :: rest
  | [] => []

/-- The segments that a path spells, dot segments included. -/
def spelledSegments (input : Text) : List Text :=
  ((dropSlash (input.filter (!isTabOrNewline ·))).splitOnP isSlash).map encodeSegment

def parsePath (input : Text) : List Text := addSegments [] (spelledSegments input)

/-- A hexadecimal digit is written as it is, and is no slash. -/
private theorem not_special_digit : ∀ a < 16,
    inPathSet (Nat.digitChar a).toUpper = false ∧ isSlash (Nat.digitChar a).toUpper = false := by
  decide

/-- A percent-encoded byte is written as it is, and holds no slash. -/
private theorem not_special_of_mem_percentEncodeByte {b : UInt8} {c : Char}
    (h : c ∈ percentEncodeByte b) : inPathSet c = false ∧ isSlash c = false := by
  have hb := b.toNat_lt
  simp only [percentEncodeByte, List.mem_cons, List.not_mem_nil, or_false] at h
  rcases h with rfl | rfl | rfl
  · decide
  · exact not_special_digit _ (by omega)
  · exact not_special_digit _ (by omega)

/-- What is left to encode is no slash, and no slash comes in. -/
private theorem not_special_of_mem_encodeSegment {s : Text} (hs : ∀ c ∈ s, isSlash c = false)
    {c : Char} (h : c ∈ encodeSegment s) : inPathSet c = false ∧ isSlash c = false := by
  obtain ⟨d, hd, hc⟩ := List.mem_flatMap.mp h
  split at hc
  · obtain ⟨b, -, hc⟩ := List.mem_flatMap.mp hc
    exact not_special_of_mem_percentEncodeByte hc
  · rename_i hnot
    rw [List.mem_singleton] at hc
    rw [hc]
    exact ⟨by simpa using hnot, hs d hd⟩

/-- A segment of a parsed path is written as it is. -/
private theorem encodeSegment_of_isSegment {s : Text} (h : isSegment s) : encodeSegment s = s := by
  simp only [isSegment, Bool.and_eq_true, List.all_eq_true, Bool.not_eq_true'] at h
  have hchars := h.1.1
  clear h
  unfold encodeSegment
  induction s with
  | nil => rfl
  | cons c s ih =>
    rw [List.flatMap_cons, (hchars c List.mem_cons_self).1,
      ih fun d hd => hchars d (List.mem_cons_of_mem c hd)]
    rfl

/-- A text is split at its slashes. -/
private theorem isSlash_of_mem_splitOnP {t s : Text} (h : s ∈ t.splitOnP isSlash) :
    ∀ c ∈ s, isSlash c = false := by
  induction t generalizing s with
  | nil =>
    rw [List.splitOnP_nil, List.mem_singleton] at h
    subst h
    simp
  | cons d t ih =>
    rw [List.splitOnP_cons_eq_if_modifyHead] at h
    -- at a slash a new part starts, else the first part gets one character more
    split at h
    · rcases List.mem_cons.mp h with rfl | h
      · simp
      · exact ih h
    · rename_i hd
      obtain ⟨first, rest, hsplit⟩ := List.exists_cons_of_ne_nil (List.splitOnP_ne_nil isSlash t)
      rw [hsplit, List.modifyHead_cons, List.mem_cons] at h
      rw [hsplit] at ih
      rcases h with rfl | h
      · intro c hc
        rcases List.mem_cons.mp hc with rfl | hc
        · simpa using hd
        · exact ih List.mem_cons_self c hc
      · exact ih (List.mem_cons_of_mem first h)

/-- What the path state adds is a segment. -/
private theorem isSegment_of_mem_addSegment {last : Bool} {path : List Text} {s : Text}
    (hpath : ∀ p ∈ path, isSegment p) (hs : ∀ c ∈ s, inPathSet c = false ∧ isSlash c = false) :
    ∀ p ∈ addSegment last path s, isSegment p := by
  have hdrop : ∀ p ∈ path.dropLast, isSegment p :=
    fun p hp => hpath p (List.dropLast_subset path hp)
  have happend : ∀ {path : List Text}, (∀ p ∈ path, isSegment p) →
      ∀ {s : Text}, isSegment s → ∀ p ∈ path ++ [s], isSegment p := by
    intro path hpath s hs p hp
    rw [List.mem_append, List.mem_singleton] at hp
    cases hp with
    | inl hp => exact hpath p hp
    | inr hp => rw [hp]; exact hs
  have hempty : isSegment [] := by decide
  unfold addSegment
  -- a double dot drops a segment, a single dot adds none, else the segment is added
  split
  · split
    · exact happend hdrop hempty
    · exact hdrop
  · split
    · split
      · exact happend hpath hempty
      · exact hpath
    · rename_i hdouble hsingle
      refine happend hpath ?_
      simp only [isSegment, Bool.and_eq_true, List.all_eq_true, Bool.not_eq_true']
      exact ⟨⟨hs, by simpa using hsingle⟩, by simpa using hdouble⟩

/-- What is added to a path are segments. -/
private theorem isSegment_of_mem_addSegments {path rest : List Text}
    (hpath : ∀ p ∈ path, isSegment p) (hrest : ∀ s ∈ rest, ∀ c ∈ s, inPathSet c = false ∧
      isSlash c = false) :
    ∀ p ∈ addSegments path rest, isSegment p := by
  fun_induction addSegments path rest with
  | case1 path => exact hpath
  | case2 path s => exact isSegment_of_mem_addSegment hpath (hrest s List.mem_cons_self)
  | case3 path s rest hne ih =>
    exact ih (isSegment_of_mem_addSegment hpath (hrest s List.mem_cons_self))
      fun t ht => hrest t (List.mem_cons_of_mem s ht)

/-- The last segment is always written. -/
private theorem addSegments_ne_nil {path rest : List Text} (h : rest ≠ []) :
    addSegments path rest ≠ [] := by
  fun_induction addSegments path rest with
  | case1 path => exact absurd rfl h
  | case2 path s =>
    unfold addSegment
    split
    · simp
    · split
      · simp
      · simp
  | case3 path s rest hne ih => exact ih (by simpa using hne)

/-- `url.pathname = input` -/
def setPathname (url : Url) (input : Text) : Url :=
  { url with
    path := parsePath input
    path_ne_nil := addSegments_ne_nil (by simp [spelledSegments])
    isSegment_of_mem_path := by
      refine isSegment_of_mem_addSegments (by simp) fun s hs => ?_
      obtain ⟨piece, hpiece, rfl⟩ := List.mem_map.mp hs
      exact fun c hc => not_special_of_mem_encodeSegment (isSlash_of_mem_splitOnP hpiece) hc }

/-! ### Dot segments -/

/-- What a sequence of segments does to a path that it follows: it removes the last segments of
that path, as many as the first component says, and adds those of the second. -/
def climbSegment (last : Bool) (c : Nat × List Text) (s : Text) : Nat × List Text :=
  let up := if c.2 = [] then (c.1 + 1, []) else (c.1, c.2.dropLast)
  if isDoubleDot s then if last then (up.1, up.2 ++ [[]]) else up
  else if isSingleDot s then if last then (c.1, c.2 ++ [[]]) else c
  else (c.1, c.2 ++ [s])

def climbSegments (c : Nat × List Text) : List Text → Nat × List Text
  | [] => c
  | [s] => climbSegment true c s
  | s :: rest => climbSegments (climbSegment false c s) rest

def climb (segments : List Text) : Nat × List Text := climbSegments (0, []) segments

/-- `c` applied to a path. -/
def climbed (base : List Text) (c : Nat × List Text) : List Text :=
  base.take (base.length - c.1) ++ c.2

/-- Adding to a climbed path is climbing on. -/
private theorem addSegment_climbed (last : Bool) (base : List Text) (c : Nat × List Text)
    (s : Text) :
    addSegment last (climbed base c) s = climbed base (climbSegment last c s) := by
  obtain ⟨k, added⟩ := c
  -- one step up takes from what was added, else from the base
  have hup : (climbed base (k, added)).dropLast =
      climbed base (if added = [] then (k + 1, []) else (k, added.dropLast)) := by
    unfold climbed
    split
    · rename_i hnil
      subst hnil
      rw [List.append_nil, List.append_nil, List.dropLast_eq_take, List.take_take, List.length_take]
      congr 1
      omega
    · rename_i hne
      exact List.dropLast_append_of_ne_nil hne
  -- the same cases on both sides: up, stay, or one segment more
  unfold addSegment climbSegment
  rw [hup]
  split
  · split
    · simp [climbed]
    · rfl
  · split
    · split
      · simp [climbed]
      · rfl
    · simp [climbed]

/-- Adding segments to a climbed path is climbing on. -/
private theorem addSegments_climbed (base : List Text) (c : Nat × List Text) (rest : List Text) :
    addSegments (climbed base c) rest = climbed base (climbSegments c rest) := by
  fun_induction climbSegments c rest with
  | case1 c => rfl
  | case2 c s => exact addSegment_climbed true base c s
  | case3 c s rest hne ih =>
    rw [addSegments, addSegment_climbed, ih]
    exact hne

/-- What dot segments leave of the path before them. -/
theorem addSegments_eq_climb (base rest : List Text) :
    addSegments base rest = climbed base (climb rest) := by
  have hstart : base = climbed base (0, []) := by simp [climbed]
  exact (congrArg (addSegments · rest) hstart).trans (addSegments_climbed base (0, []) rest)

/-! ### Paths under a path -/

/-- Where a segment may end. -/
def Boundary (t : Text) : Prop := t = [] ∨ ∃ rest, t = '/' :: rest

/-- A path followed by a boundary starts at a boundary. -/
private theorem boundary_pathText (segments : List Text) {rest : Text} (h : Boundary rest) :
    Boundary (pathText segments ++ rest) := by
  cases segments with
  | nil => exact h
  | cons s segments => exact .inr ⟨_, rfl⟩

/-- A text without slashes before a boundary can be read back. -/
private theorem eq_of_boundary {s t u v : Text} (hs : '/' ∉ s) (ht : '/' ∉ t) (hu : Boundary u)
    (hv : Boundary v) (h : s ++ u = t ++ v) : s = t ∧ u = v := by
  -- by induction on the first text, which ends where the second does
  induction s generalizing t with
  | nil =>
    cases t with
    | nil => exact ⟨rfl, h⟩
    | cons c t =>
      rcases hu with rfl | ⟨rest, rfl⟩
      · exact absurd h (by simp)
      · exact absurd (List.mem_cons.mpr (.inl (List.cons.inj h).1)) ht
  | cons c s ih =>
    rw [List.mem_cons, not_or] at hs
    cases t with
    | nil =>
      rcases hv with rfl | ⟨rest, rfl⟩
      · exact absurd h (by simp)
      · exact absurd (List.cons.inj h).1.symm hs.1
    | cons d t =>
      obtain ⟨rfl, htail⟩ := List.cons.inj h
      obtain ⟨rfl, rfl⟩ := ih hs.2 (fun hmem => ht (List.mem_cons_of_mem _ hmem)) htail
      exact ⟨rfl, rfl⟩

/-- A segment holds no slash. -/
theorem slash_not_mem_of_isSegment {s : Text} (h : isSegment s) : '/' ∉ s := by
  simp only [isSegment, Bool.and_eq_true, List.all_eq_true, Bool.not_eq_true'] at h
  intro hmem
  exact absurd (h.1.1 '/' hmem).2 (by decide)

/-- A path lies under another one if its segments begin with those of the other. -/
theorem pathText_prefix_iff {a b : List Text} (ha : ∀ s ∈ a, isSegment s)
    (hb : ∀ s ∈ b, isSegment s) :
    (∃ rest, pathText b = pathText a ++ rest ∧ Boundary rest) ↔ a <+: b := by
  constructor
  -- forwards: both texts read back segment by segment
  · rintro ⟨rest, htext, hrest⟩
    induction a generalizing b with
    | nil => exact List.nil_prefix
    | cons s a ih =>
      cases b with
      | nil => exact absurd htext (by simp [pathText])
      | cons t b =>
        rw [pathText_cons, pathText_cons, List.cons_append, List.append_assoc] at htext
        have hboundary : Boundary (pathText b) := by
          have := boundary_pathText b (.inl rfl)
          rwa [List.append_nil] at this
        obtain ⟨rfl, hmore⟩ := eq_of_boundary
          (slash_not_mem_of_isSegment (hb t List.mem_cons_self))
          (slash_not_mem_of_isSegment (ha s List.mem_cons_self)) hboundary
          (boundary_pathText a hrest) (List.cons.inj htext).2
        exact List.cons_prefix_cons.mpr ⟨rfl, ih (fun p hp => ha p (List.mem_cons_of_mem _ hp))
          (fun p hp => hb p (List.mem_cons_of_mem _ hp)) hmore⟩
  -- backwards: the segments behind are the rest, and they start at a boundary
  · rintro ⟨more, rfl⟩
    refine ⟨pathText more, by simp [pathText], ?_⟩
    have := boundary_pathText more (.inl rfl)
    rwa [List.append_nil] at this

/-! ### Slashes in a row -/

/-- `text.replace(/\/{2,}/g, '/')` -/
def collapseSlashes : Text → Text
  | [] => []
  | c :: rest =>
    if c = '/' ∧ rest.head? = some '/' then collapseSlashes rest else c :: collapseSlashes rest

/-- A text without slashes is not collapsed. -/
private theorem collapseSlashes_append {s t : Text} (h : '/' ∉ s) :
    collapseSlashes (s ++ t) = s ++ collapseSlashes t := by
  induction s with
  | nil => rfl
  | cons c s ih =>
    rw [List.mem_cons, not_or] at h
    rw [List.cons_append, collapseSlashes, if_neg fun hc => h.1 hc.1.symm, ih h.2]
    rfl

/-- A leading slash is not collapsed away. -/
theorem collapseSlashes_slash (t : Text) : ∃ rest, collapseSlashes ('/' :: t) = '/' :: rest := by
  induction t with
  | nil => exact ⟨[], rfl⟩
  | cons c t ih =>
    rw [collapseSlashes]
    split
    · rename_i hc
      obtain rfl : c = '/' := by simpa using hc.2
      exact ih
    · exact ⟨_, rfl⟩

/-- The empty segments go, those of the path that follows are collapsed on their own. -/
theorem collapseSlashes_pathText {segments : List Text} (h : ∀ s ∈ segments, isSegment s)
    (t : Text) :
    collapseSlashes (pathText segments ++ '/' :: t) =
      pathText (segments.filter (· ≠ [])) ++ collapseSlashes ('/' :: t) := by
  induction segments with
  | nil => rfl
  | cons s segments ih =>
    have ih := ih fun p hp => h p (List.mem_cons_of_mem s hp)
    have hslash := slash_not_mem_of_isSegment (h s List.mem_cons_self)
    have hnext : (pathText segments ++ '/' :: t).head? = some '/' := by
      obtain hnil | ⟨rest, hcons⟩ := boundary_pathText segments (.inr ⟨t, rfl⟩)
      · exact absurd hnil (by simp)
      · rw [hcons]
        rfl
    have htext : pathText (s :: segments) ++ '/' :: t =
        '/' :: (s ++ (pathText segments ++ '/' :: t)) := by
      simp [pathText]
    rw [htext, collapseSlashes]
    -- an empty segment is what a double slash leaves
    cases s with
    | nil =>
      rw [List.nil_append, if_pos ⟨rfl, hnext⟩, ih]
      rfl
    | cons c s =>
      have hc : c ≠ '/' := fun hc => hslash (hc ▸ List.mem_cons_self)
      rw [if_neg (by simp [hc]), collapseSlashes_append hslash, ih]
      simp [pathText]

/-! ### A path after parsed segments -/

/-- A character that is written as it is, is no blank. -/
private theorem isTabOrNewline_of_not_inPathSet {c : Char} (h : inPathSet c = false) :
    isTabOrNewline c = false := by
  unfold isTabOrNewline
  simp only [Bool.or_eq_false_iff, decide_eq_false_iff_not]
  refine ⟨⟨?_, ?_⟩, ?_⟩ <;>
  · rintro rfl
    exact absurd h (by decide)

/-- No character of a path is dropped as a blank. -/
private theorem filter_pathText {segments : List Text} (h : ∀ s ∈ segments, isSegment s) :
    (pathText segments).filter (!isTabOrNewline ·) = pathText segments := by
  rw [List.filter_eq_self]
  intro c hc
  obtain ⟨s, hs, hc⟩ := List.mem_flatMap.mp hc
  rcases List.mem_cons.mp hc with rfl | hc
  · decide
  · have hsegment := h s hs
    simp only [isSegment, Bool.and_eq_true, List.all_eq_true, Bool.not_eq_true'] at hsegment
    rw [isTabOrNewline_of_not_inPathSet (hsegment.1.1 c hc).1]
    rfl

/-- A path splits into its segments, and into what follows it. -/
private theorem splitOnP_pathText {segments : List Text} (h : ∀ s ∈ segments, isSegment s)
    (t : Text) :
    (dropSlash (pathText segments ++ '/' :: t)).splitOnP isSlash =
      segments ++ t.splitOnP isSlash := by
  induction segments with
  | nil => rfl
  | cons s segments ih =>
    have ih := ih fun p hp => h p (List.mem_cons_of_mem s hp)
    have hsegment := h s List.mem_cons_self
    simp only [isSegment, Bool.and_eq_true, List.all_eq_true, Bool.not_eq_true'] at hsegment
    obtain hnil | ⟨rest, hcons⟩ := boundary_pathText segments (.inr ⟨t, rfl⟩)
    · exact absurd hnil (by simp)
    · rw [hcons] at ih
      rw [pathText_cons, List.cons_append, List.append_assoc, hcons]
      show (s ++ '/' :: rest).splitOnP isSlash = _
      rw [List.splitOnP_append_cons_of_forall_mem (fun c hc => (hsegment.1.1 c hc).2) '/' rfl]
      exact congrArg (s :: ·) ih

/-- The parsed segments are spelled as they are. -/
private theorem spelledSegments_pathText {segments : List Text} (h : ∀ s ∈ segments, isSegment s)
    (t : Text) :
    spelledSegments (pathText segments ++ '/' :: t) = segments ++ spelledSegments ('/' :: t) := by
  unfold spelledSegments
  have hslash : ('/' :: t).filter (!isTabOrNewline ·) = '/' :: t.filter (!isTabOrNewline ·) := rfl
  rw [List.filter_append, filter_pathText h, hslash, splitOnP_pathText h, List.map_append]
  congr 1
  rw [List.map_congr_left fun s hs => encodeSegment_of_isSegment (h s hs), List.map_id']

/-- Parsed segments are added one by one. -/
private theorem addSegments_append {path segments rest : List Text}
    (h : ∀ s ∈ segments, isSegment s) (hrest : rest ≠ []) :
    addSegments path (segments ++ rest) = addSegments (path ++ segments) rest := by
  induction segments generalizing path with
  | nil => simp
  | cons s segments ih =>
    have hsegment := h s List.mem_cons_self
    simp only [isSegment, Bool.and_eq_true, Bool.not_eq_true'] at hsegment
    have hadd : addSegment false path s = path ++ [s] := by
      unfold addSegment
      rw [hsegment.2, hsegment.1.2]
      rfl
    rw [List.cons_append, addSegments, hadd, ih fun p hp => h p (List.mem_cons_of_mem s hp)]
    · simp
    · simp [hrest]

/-- A path that is parsed after the segments of another one. -/
theorem parsePath_pathText {segments : List Text} (h : ∀ s ∈ segments, isSegment s) (t : Text) :
    parsePath (pathText segments ++ '/' :: t) =
      climbed segments (climb (spelledSegments ('/' :: t))) := by
  unfold parsePath
  rw [spelledSegments_pathText h, addSegments_append h (by simp [spelledSegments]),
    List.nil_append, addSegments_eq_climb]

/-! ### The query -/

/-- `url.search = text` for a text that needs no escape. -/
def setSearch (url : Url) (text : Text) : Url :=
  { url with query := if text = [] then none else some text }

/-- `searchParams.set(key, value)` -/
def setParam (params : List (Text × Text)) (key value : Text) : List (Text × Text) :=
  match params.findIdx? (·.1 = key) with
  | some i =>
    params.take i ++ (key, value) :: (params.drop (i + 1)).filter (·.1 ≠ key)
  | none => params ++ [(key, value)]

end Url
