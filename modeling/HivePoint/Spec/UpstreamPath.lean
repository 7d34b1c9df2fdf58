import HivePoint.Native.GatewayUpstream

/-!
# Upstream paths

Where the URL of an upstream request lies with respect to the product's base URL: the segments
of the path that the caller spells come after those of the base, and each dot segment takes one
of them away.

## Key results

- `path_upstreamUrl`: the segments of the upstream path
- `upstreamUrl_staysUnder_iff`: the base URLs and paths for which it lies under the base
- `confined_of_plain`: it does for plain bases and paths
-/

namespace HivePoint

open Url

/-! ### Segments of the base and of the path -/

/-- The segments of the base path without its trailing slash. -/
def baseSegments (baseUrl : Url) : List Text :=
  if baseUrl.path.getLast? = some [] then baseUrl.path.dropLast else baseUrl.path

/-- The segments that a path spells, dot segments included, after the slashes in a row are
collapsed. -/
def namedSegments (path : Text) : List Text :=
  spelledSegments (collapseSlashes (pathOnly (normalizePath path)))

/-- The base's segments are segments. -/
private theorem isSegment_of_mem_baseSegments {baseUrl : Url} :
    ∀ s ∈ baseSegments baseUrl, isSegment s := by
  intro s hs
  unfold baseSegments at hs
  split at hs
  · exact baseUrl.isSegment_of_mem_path s (List.dropLast_subset _ hs)
  · exact baseUrl.isSegment_of_mem_path s hs

/-- A text ends with a slash if its last character is one. -/
private theorem endsWith_slash {t : Text} : Text.endsWith t "/".toList ↔ t.getLast? = some '/' := by
  unfold Text.endsWith
  rw [List.isSuffixOf_iff_suffix, List.getLast?_eq_some_iff]
  exact exists_congr fun init => eq_comm

/-- Without its trailing slash, the base path is the segments before it. -/
private theorem normalizedBasePath_eq (baseUrl : Url) :
    normalizedBasePath baseUrl = pathText (baseSegments baseUrl) := by
  obtain ⟨init, last, hpath⟩ : ∃ init last, baseUrl.path = init ++ [last] :=
    ⟨_, _, (List.dropLast_append_getLast baseUrl.path_ne_nil).symm⟩
  have hlast : '/' ∉ last := by
    apply slash_not_mem_of_isSegment
    apply baseUrl.isSegment_of_mem_path
    rw [hpath]
    exact List.mem_append_right _ List.mem_cons_self
  have htext : baseUrl.pathname = pathText init ++ '/' :: last := by
    unfold pathname
    rw [hpath]
    simp [pathText]
  unfold normalizedBasePath baseSegments
  rw [hpath, htext, List.getLast?_concat]
  -- an empty last segment is the slash that the code drops
  by_cases hempty : last = []
  · subst hempty
    rw [if_pos (endsWith_slash.mpr (by simp)), if_pos rfl]
    simp
  · have hend : ¬Text.endsWith (pathText init ++ '/' :: last) "/".toList := by
      rw [endsWith_slash]
      intro h
      rw [List.getLast?_append_cons, List.getLast?_cons_of_ne_nil hempty] at h
      exact hlast (List.mem_of_getLast? h)
    rw [if_neg hend, if_neg (by simpa using hempty)]
    simp [pathText]

/-- A normalized path begins with a slash. -/
private theorem pathOnly_normalizePath (path : Text) :
    ∃ rest, pathOnly (normalizePath path) = '/' :: rest := by
  have hnormalized : ∃ rest, normalizePath path = '/' :: rest := by
    unfold normalizePath
    by_cases hslash : Text.startsWith (Text.trim path) "/".toList
    · obtain ⟨rest, hrest⟩ := List.isPrefixOf_iff_prefix.mp hslash
      exact ⟨rest, by rw [if_pos hslash]; exact hrest.symm⟩
    · exact ⟨_, if_neg hslash⟩
  obtain ⟨rest, hrest⟩ := hnormalized
  obtain ⟨first, more, hsplit⟩ := List.exists_cons_of_ne_nil (List.splitOn_ne_nil '?' rest)
  refine ⟨first, ?_⟩
  unfold pathOnly
  rw [hrest, List.splitOn_cons_eq_if_modifyHead, if_neg (by decide), hsplit]
  rfl

/-- The segments of the upstream path. -/
theorem path_upstreamUrl (api : UrlApi) (baseUrl : Url) (path : Text)
    (query : List (Text × Text)) :
    (upstreamUrl api baseUrl (normalizePath path) query).path =
      climbed ((baseSegments baseUrl).filter (· ≠ [])) (climb (namedSegments path)) := by
  obtain ⟨rest, hpath⟩ := pathOnly_normalizePath path
  obtain ⟨rest', hcollapsed⟩ := collapseSlashes_slash rest
  have hslash : Text.startsWith ('/' :: rest) "/".toList := rfl
  show parsePath _ = _
  unfold namedSegments
  rw [hpath, if_pos hslash, normalizedBasePath_eq,
    collapseSlashes_pathText isSegment_of_mem_baseSegments, hcollapsed,
    parsePath_pathText fun s hs => isSegment_of_mem_baseSegments s (List.mem_of_mem_filter hs)]

/-! ### Staying under the base -/

/-- The URL goes to the server of the base URL, and its path is that of the base, followed by
nothing or by a slash and the rest. -/
structure StaysUnder (baseUrl url : Url) : Prop where
  protocol : url.protocol = baseUrl.protocol
  username : url.username = baseUrl.username
  password : url.password = baseUrl.password
  hostname : url.hostname = baseUrl.hostname
  port : url.port = baseUrl.port
  pathname : ∃ rest, url.pathname = normalizedBasePath baseUrl ++ rest ∧ Boundary rest

/-- The number of base segments that the dot segments of the path leave: empty segments are
collapsed before they could be reached. -/
def keptSegments (baseUrl : Url) (path : Text) : Nat :=
  ((baseSegments baseUrl).filter (· ≠ [])).length - (climb (namedSegments path)).1

/-- The path climbs back over the first empty segment of the base, if there is one, and names
again, first of all, every segment of the base that it climbs over. -/
structure Confined (baseUrl : Url) (path : Text) : Prop where
  kept_le : keptSegments baseUrl path ≤ ((baseSegments baseUrl).takeWhile (· ≠ [])).length
  namesAgain : (baseSegments baseUrl).drop (keptSegments baseUrl path) <+:
    (climb (namedSegments path)).2

/-- A base survives the climb if what is dropped is named again. -/
private theorem prefix_take_filter_iff {base added : List Text} {n : Nat}
    (hn : n ≤ (base.filter (· ≠ [])).length) :
    base <+: (base.filter (· ≠ [])).take n ++ added ↔
      n ≤ (base.takeWhile (· ≠ [])).length ∧ base.drop n <+: added := by
  induction base generalizing n with
  | nil =>
    obtain rfl : n = 0 := by simpa using hn
    simp
  | cons s base ih =>
    cases n with
    | zero => simp
    | succ n =>
      by_cases hs : s = []
      · -- the empty segment is gone from the collapsed base
        subst hs
        simp only [ne_eq, not_true_eq_false, decide_false, Bool.false_eq_true, not_false_eq_true,
          List.filter_cons_of_neg, List.takeWhile_cons_of_neg, List.length_nil] at hn ⊢
        refine ⟨fun h => ?_, fun h => absurd h.1 (by omega)⟩
        cases hfilter : base.filter (decide ¬· = []) with
        | nil => rw [hfilter] at hn; exact absurd hn (by simp)
        | cons t rest =>
          rw [hfilter, List.take_succ_cons, List.cons_append] at h
          have ht : t ∈ base.filter (decide ¬· = []) := by rw [hfilter]; exact List.mem_cons_self
          have hne := List.of_mem_filter ht
          rw [← (List.cons_prefix_cons.mp h).1] at hne
          exact absurd hne (by simp)
      · rw [List.filter_cons_of_pos (by simpa using hs), List.length_cons] at hn
        rw [List.filter_cons_of_pos (by simpa using hs),
          List.takeWhile_cons_of_pos (by simpa using hs), List.take_succ_cons, List.cons_append,
          List.cons_prefix_cons, ih (by omega), List.drop_succ_cons, List.length_cons,
          Nat.succ_le_succ_iff]
        simp

/-- The upstream URL stays under the base exactly for these base URLs and paths. -/
theorem upstreamUrl_staysUnder_iff (api : UrlApi) (baseUrl : Url) (path : Text)
    (query : List (Text × Text)) :
    StaysUnder baseUrl (upstreamUrl api baseUrl (normalizePath path) query) ↔
      Confined baseUrl path := by
  have hpath := path_upstreamUrl api baseUrl path query
  -- the path as a text is under the base if its segments begin with the base's
  have hpathname : (∃ rest, (upstreamUrl api baseUrl (normalizePath path) query).pathname =
      normalizedBasePath baseUrl ++ rest ∧ Boundary rest) ↔
        baseSegments baseUrl <+: (upstreamUrl api baseUrl (normalizePath path) query).path := by
    rw [normalizedBasePath_eq]
    exact pathText_prefix_iff isSegment_of_mem_baseSegments (Url.isSegment_of_mem_path _)
  have hkept : keptSegments baseUrl path ≤ ((baseSegments baseUrl).filter (· ≠ [])).length :=
    Nat.sub_le _ _
  have hpre := @prefix_take_filter_iff _ (climb (namedSegments path)).2 _ hkept
  rw [hpath] at hpathname
  constructor
  · intro h
    obtain ⟨hle, hagain⟩ := hpre.mp (hpathname.mp h.pathname)
    exact ⟨hle, hagain⟩
  · rintro ⟨hle, hagain⟩
    exact ⟨rfl, rfl, rfl, rfl, rfl, hpathname.mpr (hpre.mpr ⟨hle, hagain⟩)⟩

/-! ### Plain paths, and a path that climbs -/

/-- Without double dots nothing is removed. -/
private theorem climbSegments_fst {c : Nat × List Text} {segments : List Text}
    (h : ∀ s ∈ segments, ¬isDoubleDot s) : (climbSegments c segments).1 = c.1 := by
  have hstep : ∀ last c s, ¬isDoubleDot s → (climbSegment last c s).1 = c.1 := by
    intro last c s hs
    unfold climbSegment
    rw [if_neg hs]
    split
    · split <;> rfl
    · rfl
  fun_induction climbSegments c segments with
  | case1 c => rfl
  | case2 c s => exact hstep true c s (h s List.mem_cons_self)
  | case3 c s rest hne ih =>
    rw [ih fun t ht => h t (List.mem_cons_of_mem s ht)]
    exact hstep false c s (h s List.mem_cons_self)

/-- A base without empty segments and a path without double dots, in any spelling. -/
theorem confined_of_plain {baseUrl : Url} {path : Text}
    (hbase : ∀ s ∈ baseSegments baseUrl, s ≠ [])
    (hpath : ∀ s ∈ namedSegments path, ¬isDoubleDot s) : Confined baseUrl path := by
  have hfilter : (baseSegments baseUrl).filter (· ≠ []) = baseSegments baseUrl :=
    List.filter_eq_self.mpr fun s hs => decide_eq_true (hbase s hs)
  have htakeWhile : (baseSegments baseUrl).takeWhile (· ≠ []) = baseSegments baseUrl := by
    have := @List.takeWhile_append_of_pos _ (fun s : Text => decide (s ≠ [])) _ [] fun s hs =>
      decide_eq_true (hbase s hs)
    simpa using this
  have hkept : keptSegments baseUrl path = (baseSegments baseUrl).length := by
    unfold keptSegments climb
    rw [hfilter, climbSegments_fst hpath, Nat.sub_zero]
  constructor
  · exact Nat.le_of_eq (by rw [hkept, htakeWhile])
  · rw [hkept, List.drop_length]
    exact List.nil_prefix

/-- `https://api.example/v1` -/
def sampleBaseUrl : Url where
  protocol := "https:".toList
  username := []
  password := []
  hostname := "api.example".toList
  port := none
  path := ["v1".toList]
  path_ne_nil := by decide
  isSegment_of_mem_path := by decide
  query := none
  fragment := none

/-- A runtime that knows the text of the sample base URL. -/
def sampleUrlApi : UrlApi where
  parse text := if text = "https://api.example/v1".toList then some sampleBaseUrl else none
  parseRelative _ _ := none
  serialize url := url.protocol ++ "//".toList ++ url.hostname ++ url.pathname
  parseQuery _ := []
  formatQuery _ := []

/-- The path `/../admin` leads out of `https://api.example/v1`. -/
theorem not_upstreamUrl_staysUnder :
    (upstreamUrl sampleUrlApi sampleBaseUrl (normalizePath "/../admin".toList) []).pathname =
        "/admin".toList ∧
      ¬StaysUnder sampleBaseUrl
        (upstreamUrl sampleUrlApi sampleBaseUrl (normalizePath "/../admin".toList) []) := by
  have hpathname : (upstreamUrl sampleUrlApi sampleBaseUrl (normalizePath "/../admin".toList)
      []).pathname = "/admin".toList := by decide +kernel
  refine ⟨hpathname, fun h => ?_⟩
  obtain ⟨rest, htext, -⟩ := h.pathname
  rw [hpathname] at htext
  have hbase : normalizedBasePath sampleBaseUrl = "/v1".toList := by decide +kernel
  rw [hbase] at htext
  exact absurd htext (by simp)

end HivePoint
