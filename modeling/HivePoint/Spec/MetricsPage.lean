import HivePoint.ForStd.Exposition
import HivePoint.ForStd.List
import HivePoint.ForStd.Passage
import HivePoint.Native.MetricsController
import HivePoint.Spec.Statements

/-!
# What a scrape of the metrics says

The page of `getMetrics` is read by a scraper that knows the exposition format and nothing else.
Methods, paths and status codes come from the requests, so a path may hold any character.

## Key results

- `escapeLabelValue_eq_escape`: the three replacements, one after another, escape as the format
  asks for.
- `parse_getMetrics`: every page is read back as the samples that were put into it.
- `getMetrics_reports`: after any requests, a page shows their number, the sum and the maximum of
  their durations for each method, path and status code, once, and nothing for labels without a
  request.
-/

namespace HivePoint

/-! ### Escaping -/

/-- One character is replaced or kept. -/
private theorem replaceChar_singleton (c : Char) (r : Text) (a : Char) :
    replaceChar c r [a] = if a = c then r else [a] := by
  simp only [replaceChar, List.flatMap_cons, List.flatMap_nil, List.append_nil]

/-- Characters are replaced one by one. -/
private theorem replaceChar_append (c : Char) (r t₁ t₂ : Text) :
    replaceChar c r (t₁ ++ t₂) = replaceChar c r t₁ ++ replaceChar c r t₂ := by
  simp only [replaceChar, List.flatMap_append]

/-- The backslash goes first: the later replacements bring in backslashes of their own. -/
theorem escapeLabelValue_eq_escape (value : Text) :
    escapeLabelValue value = Exposition.escape value := by
  induction value with
  | nil => rfl
  | cons a value ih =>
    have hcons : escapeLabelValue (a :: value) = escapeLabelValue [a] ++
        escapeLabelValue value := by
      unfold escapeLabelValue
      rw [← replaceChar_append, ← replaceChar_append, ← replaceChar_append, List.singleton_append]
    have hone : escapeLabelValue [a] = Exposition.escapeChar a := by
      unfold escapeLabelValue Exposition.escapeChar Exposition.quote
      rw [replaceChar_singleton]
      -- the three replacements, in the order of the code: backslash, line feed, quote
      by_cases hbackslash : a = '\\'
      · subst hbackslash
        decide
      · rw [if_neg hbackslash, if_neg hbackslash, replaceChar_singleton]
        by_cases hfeed : a = '\n'
        · subst hfeed
          decide
        · rw [if_neg hfeed, if_neg hfeed, replaceChar_singleton]
    rw [hcons, hone, ih, Exposition.escape, Exposition.escape, List.flatMap_cons]

/-- The labels are written as the format asks. -/
private theorem formatLabels_eq_labelsText (labels : List (Text × Text)) :
    formatLabels labels = Exposition.labelsText labels := by
  unfold formatLabels Exposition.labelsText Exposition.labelText
  simp only [escapeLabelValue_eq_escape]
  rfl

/-! ### Families as lines of the format -/

/-- The samples of a family. -/
def MetricFamily.readings (family : MetricFamily) : List Exposition.Sample :=
  family.samples.map fun (labels, value) => ⟨family.name.toList, labels, value⟩

def MetricFamily.expositionLines (family : MetricFamily) : List Exposition.Line :=
  .comment family.helpLine :: .comment family.typeLine :: family.readings.map .sample

/-- The lines of a family are its lines of the format. -/
private theorem MetricFamily.map_text_expositionLines (family : MetricFamily) :
    family.expositionLines.map Exposition.Line.text = family.lines := by
  unfold MetricFamily.expositionLines MetricFamily.lines MetricFamily.readings
  simp only [List.map_cons, List.map_map, List.cons.injEq]
  refine ⟨rfl, rfl, List.map_congr_left fun sample _ => ?_⟩
  show Exposition.sampleLine _ = _
  rw [Exposition.sampleLine, formatLabels_eq_labelsText]

/-- Its samples are its readings. -/
private theorem MetricFamily.filterMap_sample?_expositionLines (family : MetricFamily) :
    family.expositionLines.filterMap Exposition.Line.sample? = family.readings := by
  show (family.readings.map Exposition.Line.sample).filterMap Exposition.Line.sample? = _
  rw [List.filterMap_map]
  exact List.filterMap_some

/-- What stands in the comments is on one line, and the name is one of a metric. -/
def headed (name help type : String) : Bool :=
  name.toList ≠ [] && name.toList.all (fun a => a ≠ '{' && a ≠ ' ' && a ≠ '#' && a ≠ '\n') &&
    help.toList.all (· ≠ '\n') && type.toList.all (· ≠ '\n')

/-- Its labels have names, and its values are on one line. -/
structure MetricFamily.Plain (family : MetricFamily) : Prop where
  headed : headed family.name family.help family.type = true
  labels : ∀ sample ∈ family.samples, (sample.1.all fun label =>
    label.1.all fun a => a ≠ '=' && a ≠ '\n') = true
  value : ∀ sample ∈ family.samples, '\n' ∉ sample.2

/-- A plain family is written in well-formed lines. -/
private theorem MetricFamily.Plain.wellFormed {family : MetricFamily} (h : family.Plain) :
    ∀ line ∈ family.expositionLines, line.WellFormed := by
  have hheaded := h.headed
  simp only [HivePoint.headed, Bool.and_eq_true, decide_eq_true_eq, List.all_eq_true] at hheaded
  obtain ⟨⟨⟨hnonempty, hname⟩, hhelp⟩, htype⟩ := hheaded
  have hnofeed : '\n' ∉ family.name.toList := fun hmem => absurd rfl (hname '\n' hmem).2
  -- a comment line begins with a mark and has no line feed
  have hcomment : ∀ (intro' t : Text), Exposition.isComment intro' = true → intro' ≠ [] →
      '\n' ∉ intro' → (∀ a ∈ t, a ≠ '\n') →
      (Exposition.Line.comment (intro' ++ family.name.toList ++ ' ' :: t)).WellFormed := by
    intro intro' t hcomment hne hintro ht
    constructor
    · cases intro' with
      | nil => exact absurd rfl hne
      | cons a rest => simpa [Exposition.isComment] using hcomment
    · intro hmem
      simp only [List.mem_append, List.mem_cons] at hmem
      rcases hmem with (hmem | hmem) | hmem | hmem
      · exact hintro hmem
      · exact hnofeed hmem
      · exact absurd hmem (by decide)
      · exact ht _ hmem rfl
  intro line hline
  simp only [MetricFamily.expositionLines, List.mem_cons, List.mem_map] at hline
  -- the two comments and the samples
  rcases hline with rfl | rfl | ⟨sample, hsample, rfl⟩
  · exact hcomment "# HELP ".toList _ (by decide +kernel) (by decide +kernel)
      (by decide +kernel) hhelp
  · exact hcomment "# TYPE ".toList _ (by decide +kernel) (by decide +kernel)
      (by decide +kernel) htype
  · obtain ⟨⟨labels, value⟩, hmem, rfl⟩ := List.mem_map.mp hsample
    refine ⟨fun a ha => ?_, hnonempty, fun label hlabel a ha => ?_, h.value _ hmem⟩
    · have := hname a ha
      simp only [Bool.and_eq_true, decide_eq_true_eq]
      exact this
    · have := List.all_eq_true.mp (h.labels _ hmem) label hlabel
      exact List.all_eq_true.mp this a ha

/-- A page of plain families is read as their samples. -/
private theorem parse_joinLines {families : List MetricFamily} (hfamilies : families ≠ [])
    (hplain : ∀ family ∈ families, family.Plain) :
    Exposition.parse (pageText (families.flatMap (·.lines))) =
      some (families.flatMap (·.readings)) := by
  -- the page is a page of the format, so it is parsed line by line
  have hpage : pageText (families.flatMap (·.lines)) =
      Exposition.page (families.flatMap (·.expositionLines)) := by
    rw [pageText, Exposition.page, List.map_flatMap]
    simp only [MetricFamily.map_text_expositionLines]
  have hlines : families.flatMap (·.expositionLines) ≠ [] := by
    cases families with
    | nil => exact absurd rfl hfamilies
    | cons family families => simp [MetricFamily.expositionLines]
  rw [hpage, Exposition.parse_page hlines, List.filterMap_flatMap]
  · simp only [MetricFamily.filterMap_sample?_expositionLines]
  · intro line hline
    obtain ⟨family, hfamily, hmem⟩ := List.mem_flatMap.mp hline
    exact (hplain family hfamily).wellFormed line hmem

/-! ### The families of the page -/

/-- A number has no line feed. -/
private theorem feed_notMem_natText (n : Nat) : '\n' ∉ natText n := by
  intro h
  have hdigit := Nat.isDigit_of_mem_toDigits (by decide) (by decide) h
  exact absurd hdigit (by decide)

/-- Neither has an integer. -/
private theorem feed_notMem_intText (n : Int) : '\n' ∉ intText n := by
  cases n with
  | ofNat n => exact feed_notMem_natText n
  | negSucc n =>
    intro h
    rcases List.mem_cons.mp h with h | h
    · exact absurd h (by decide)
    · exact feed_notMem_natText (n + 1) h

/-- Nor a flag. -/
private theorem feed_notMem_flag (b : Bool) : '\n' ∉ flag b := by
  cases b <;> decide

/-! ### The counters of a run -/

section Run

variable {δ : Type}

/-- A key names its labels, as long as no method has a colon. -/
private theorem HttpMetricRecord.key_eq_iff {r r' : HttpMetricRecord δ} (h : ':' ∉ r.method)
    (h' : ':' ∉ r'.method) :
    r.key = r'.key ↔ r.method = r'.method ∧ r.path = r'.path ∧ r.statusCode = r'.statusCode := by
  constructor
  · intro hkey
    have hplain : ∀ {m : Text}, ':' ∉ m → ∀ a ∈ m, decide (a ≠ ':') = true :=
      fun hm a ha => decide_eq_true fun heq => hm (heq ▸ ha)
    have hdigits : ∀ n, ':' ∉ natText n := by
      intro n hmem
      exact absurd (Nat.isDigit_of_mem_toDigits (by decide) (by decide) hmem) (by decide)
    -- the first colon ends the method, the last one begins the status code
    obtain ⟨htake, hdrop⟩ := Exposition.takeWhile_dropWhile_append (hplain h) (a := ':') (by decide)
      (r.path ++ ':' :: natText r.statusCode)
    obtain ⟨htake', hdrop'⟩ := Exposition.takeWhile_dropWhile_append (hplain h') (a := ':')
      (by decide) (r'.path ++ ':' :: natText r'.statusCode)
    unfold HttpMetricRecord.key at hkey
    rw [hkey] at htake hdrop
    have hrest := (List.cons.inj (hdrop.symm.trans hdrop')).2
    obtain ⟨hpath, hstatus⟩ :=
      List.append_cons_inj_of_notMem_right hrest (hdigits _) (hdigits _)
    refine ⟨htake.symm.trans htake', hpath, ?_⟩
    have hvalue := congrArg (Nat.ofDigitChars 10 · 0) hstatus
    simpa only [natText, Nat.ofDigitChars_ten_toDigits] using hvalue
  · rintro ⟨hmethod, hpath, hstatus⟩
    unfold HttpMetricRecord.key
    rw [hmethod, hpath, hstatus]

variable [Add δ] [Max δ]

/-- The counters after the requests of a run. -/
def recordRequests (records : List (HttpMetricRecord δ)) : RequestMetrics δ :=
  records.foldl recordRequest .empty

/-- An entry after several requests: the labels are those of the first of them. -/
private theorem foldStep_observeRequest (existing : HttpMetricSnapshotItem δ)
    (records : List (HttpMetricRecord δ)) :
    OrderedMap.foldStep observeRequest (some existing) records =
      some { existing with
        count := existing.count + records.length
        durationSumMs := (records.map (·.durationMs)).foldl (· + ·) existing.durationSumMs
        durationMaxMs := (records.map (·.durationMs)).foldl max existing.durationMaxMs } := by
  induction records generalizing existing with
  | nil => rfl
  | cons record records ih =>
    show OrderedMap.foldStep observeRequest (some (observeRequest (some existing) record))
        records = _
    rw [ih]
    simp only [observeRequest, List.map_cons, List.foldl_cons, List.length_cons]
    rw [Nat.add_assoc, Nat.add_comm 1]

/-- The entry of a key, from the requests with that key. -/
def summarize : List (HttpMetricRecord δ) → Option (HttpMetricSnapshotItem δ)
  | [] => none
  | first :: rest => some
    { method := first.method
      path := first.path
      statusCode := first.statusCode
      count := rest.length + 1
      durationSumMs := (rest.map (·.durationMs)).foldl (· + ·) first.durationMs
      durationMaxMs := (rest.map (·.durationMs)).foldl max first.durationMs }

/-- The entry of a key summarises the requests with that key. -/
private theorem get?_recordRequests (records : List (HttpMetricRecord δ)) (k : Text) :
    (recordRequests records).get? k = summarize (records.filter fun r => r.key = k) := by
  have hcollect : recordRequests records =
      OrderedMap.collect HttpMetricRecord.key observeRequest records := rfl
  rw [hcollect, OrderedMap.get?_collect]
  cases records.filter fun r => r.key = k with
  | nil => rfl
  | cons first rest =>
    show OrderedMap.foldStep observeRequest (some (observeRequest none first)) rest = _
    rw [foldStep_observeRequest]
    simp only [observeRequest, summarize, Nat.add_comm]

/-- Does the request have these labels? -/
def HttpMetricRecord.hasLabels (method path : Text) (statusCode : Nat) (r : HttpMetricRecord δ) :
    Bool :=
  r.method = method && r.path = path && r.statusCode = statusCode

def HttpMetricSnapshotItem.hasLabels (method path : Text) (statusCode : Nat)
    (item : HttpMetricSnapshotItem δ) : Bool :=
  item.method = method && item.path = path && item.statusCode = statusCode

/-- The key an entry stands under. -/
def HttpMetricSnapshotItem.key (item : HttpMetricSnapshotItem δ) : Text :=
  item.method ++ ':' :: (item.path ++ ':' :: natText item.statusCode)

/-- The entries with some labels are that of the requests with these labels, if there are any. -/
private theorem filter_values_recordRequests {records : List (HttpMetricRecord δ)}
    (hmethods : ∀ r ∈ records, ':' ∉ r.method) (method path : Text) (statusCode : Nat) :
    (recordRequests records).values.filter (·.hasLabels method path statusCode) =
      (summarize (records.filter (·.hasLabels method path statusCode))).toList := by
  have hnamed : ∀ k item, (recordRequests records).get? k = some item → item.key = k := by
    intro k item hitem
    rw [get?_recordRequests] at hitem
    cases hfilter : records.filter fun r => r.key = k with
    | nil =>
      rw [hfilter] at hitem
      cases hitem
    | cons first rest =>
      rw [hfilter] at hitem
      obtain rfl := Option.some.inj hitem
      have hfirst : first ∈ records.filter fun r => r.key = k := by
        rw [hfilter]
        exact List.mem_cons_self
      exact of_decide_eq_true (List.mem_filter.mp hfirst).2
  let k := method ++ ':' :: (path ++ ':' :: natText statusCode)
  have hlabels : ∀ item : HttpMetricSnapshotItem δ, item.hasLabels method path statusCode = true →
      decide (item.key = k) = true := by
    intro item hitem
    simp only [HttpMetricSnapshotItem.hasLabels, Bool.and_eq_true, decide_eq_true_eq] at hitem
    obtain ⟨⟨hmethod, hpath⟩, hstatus⟩ := hitem
    refine decide_eq_true ?_
    unfold HttpMetricSnapshotItem.key
    rw [hmethod, hpath, hstatus]
  have hsplit : (recordRequests records).values.filter (·.hasLabels method path statusCode) =
      ((recordRequests records).values.filter fun item => item.key = k).filter
        (·.hasLabels method path statusCode) := by
    rw [List.filter_filter]
    refine List.filter_congr fun item _ => ?_
    cases hitem : item.hasLabels method path statusCode with
    | false => rfl
    | true => rw [hlabels item hitem, Bool.true_and]
  rw [hsplit, OrderedMap.filter_values _ _ hnamed, get?_recordRequests]
  by_cases hmethod : ':' ∈ method
  · -- no request has such a method
    have hnone : records.filter (·.hasLabels method path statusCode) = [] := by
      refine List.filter_eq_nil_iff.mpr fun r hr hlabels => ?_
      simp only [HttpMetricRecord.hasLabels, Bool.and_eq_true, decide_eq_true_eq] at hlabels
      exact hmethods r hr (hlabels.1.1 ▸ hmethod)
    rw [hnone]
    cases hfilter : records.filter fun r => r.key = k with
    | nil => rfl
    | cons first rest =>
      have hfirst : first ∈ records := by
        have hmem : first ∈ records.filter fun r => r.key = k := by
          rw [hfilter]
          exact List.mem_cons_self
        exact (List.mem_filter.mp hmem).1
      have hother : first.method ≠ method := fun heq => hmethods first hfirst (heq ▸ hmethod)
      simp [summarize, HttpMetricSnapshotItem.hasLabels, hother]
  · have hsame : (records.filter fun r => r.key = k) =
        records.filter (·.hasLabels method path statusCode) := by
      refine List.filter_congr fun r hr => ?_
      let r' : HttpMetricRecord δ := ⟨method, path, statusCode, r.durationMs⟩
      have hiff : r.key = r'.key ↔ r.method = method ∧ r.path = path ∧ r.statusCode = statusCode :=
        HttpMetricRecord.key_eq_iff (hmethods r hr) hmethod
      show decide (r.key = r'.key) = _
      rw [decide_eq_decide.mpr hiff, HttpMetricRecord.hasLabels, Bool.decide_and, Bool.decide_and,
        Bool.and_assoc]
    rw [hsame]
    cases hfilter : records.filter (·.hasLabels method path statusCode) with
    | nil => rfl
    | cons first rest =>
      have hfirst : first.hasLabels method path statusCode = true := by
        have hmem : first ∈ records.filter (·.hasLabels method path statusCode) := by
          rw [hfilter]
          exact List.mem_cons_self
        exact (List.mem_filter.mp hmem).2
      exact List.filter_cons_of_pos
        (p := fun item : HttpMetricSnapshotItem δ => item.hasLabels method path statusCode) hfirst

/-- At most one item in some order. -/
private theorem eq_toList_of_perm {α : Type} {l : List α} {o : Option α} (h : l.Perm o.toList) :
    l = o.toList := by
  cases o with
  | none => exact List.perm_nil.mp h
  | some a => exact List.perm_singleton.mp h

/-- The items of the snapshot with three given labels come from the requests with these labels. -/
private theorem filter_getSnapshot_recordRequests (localeCompare : Text → Text → Int)
    {records : List (HttpMetricRecord δ)} (hmethods : ∀ r ∈ records, ':' ∉ r.method)
    (method path : Text) (statusCode : Nat) :
    (getSnapshot localeCompare (recordRequests records)).filter
        (·.hasLabels method path statusCode) =
      (summarize (records.filter (·.hasLabels method path statusCode))).toList := by
  apply eq_toList_of_perm
  rw [← filter_values_recordRequests hmethods]
  exact (List.mergeSort_perm _ _).filter _

end Run

/-! ### Reading a page back -/

section Page

variable {δ : Type} (config : MetricsPageConfig) (toFixed : δ → Text)

/-- A family of the requests is plain if its values are. -/
private theorem plain_httpFamily (httpMetrics : List (HttpMetricSnapshotItem δ))
    {name help type : String} (hheaded : headed name help type = true)
    {value : HttpMetricSnapshotItem δ → Text} (hvalue : ∀ item, '\n' ∉ value item) :
    (httpFamily httpMetrics name help type value).Plain := by
  refine ⟨hheaded, fun sample hsample => ?_, fun sample hsample => ?_⟩
  · obtain ⟨item, -, rfl⟩ := List.mem_map.mp hsample
    show ([_, _, _] : List (Text × Text)).all _ = true
    simp only [List.all_cons, List.all_nil, Bool.and_true, Bool.and_eq_true]
    decide +kernel
  · obtain ⟨item, -, rfl⟩ := List.mem_map.mp hsample
    exact hvalue item

/-- The families of the page are plain. -/
private theorem plain_metricFamilies (hfixed : ∀ d, '\n' ∉ toFixed d)
    (httpMetrics : List (HttpMetricSnapshotItem δ)) (snapshot : OperationalMetricsSnapshot)
    (auditLogsLast24h : Nat) :
    ∀ family ∈ metricFamilies config toFixed httpMetrics snapshot auditLogsLast24h,
      family.Plain := by
  -- the families of the requests
  have hhttp : ∀ family ∈ httpFamilies toFixed httpMetrics, family.Plain := by
    simp only [httpFamilies, List.forall_mem_cons]
    refine ⟨?_, ?_, ?_, ?_, fun family h => absurd h List.not_mem_nil⟩
    · exact plain_httpFamily httpMetrics (by decide +kernel) fun item => feed_notMem_natText _
    · exact plain_httpFamily httpMetrics (by decide +kernel) fun item => hfixed _
    · exact plain_httpFamily httpMetrics (by decide +kernel) fun item => feed_notMem_natText _
    · exact plain_httpFamily httpMetrics (by decide +kernel) fun item => hfixed _
  -- the families of the snapshot
  have hsnapshot : ∀ family ∈ snapshotFamilies snapshot auditLogsLast24h, family.Plain := by
    simp only [snapshotFamilies, List.forall_mem_cons]
    refine ⟨?_, ?_, ?_, ?_, ?_, ?_, fun family h => absurd h List.not_mem_nil⟩
    all_goals
      refine ⟨?_, ?_, ?_⟩
      · dsimp only
        decide +kernel
      · simp only [List.forall_mem_cons, List.not_mem_nil, false_imp_iff, implies_true, and_true]
        decide +kernel
      · simp only [List.forall_mem_cons, feed_notMem_natText, feed_notMem_intText, feed_notMem_flag,
          not_false_eq_true, true_and, List.not_mem_nil, false_imp_iff, implies_true]
  -- the families of the alerts
  have halerts :
      ∀ family ∈ alertFamilies config (deriveOperationalAlerts config.monitoring snapshot),
      family.Plain := by
    simp only [alertFamilies, List.forall_mem_cons]
    refine ⟨?_, ?_, ?_, ?_, fun family h => absurd h List.not_mem_nil⟩
    all_goals
      refine ⟨?_, ?_, ?_⟩
      · dsimp only
        decide +kernel
      · simp only [List.forall_mem_cons, List.not_mem_nil, false_imp_iff, implies_true, and_true]
        decide +kernel
      · simp only [List.forall_mem_cons, feed_notMem_natText, feed_notMem_flag,
          not_false_eq_true, true_and, List.not_mem_nil, false_imp_iff, implies_true]
  intro family hfamily
  rcases List.mem_append.mp hfamily with hfamily | hfamily
  · rcases List.mem_append.mp hfamily with hfamily | hfamily
    · exact hhttp family hfamily
    · exact hsnapshot family hfamily
  · exact halerts family hfamily

/-- The page of the families is parsed into their readings. -/
private theorem parse_metricFamilies (hfixed : ∀ d, '\n' ∉ toFixed d)
    (httpMetrics : List (HttpMetricSnapshotItem δ)) (snapshot : OperationalMetricsSnapshot)
    (auditLogsLast24h : Nat) :
    Exposition.parse (pageText ((metricFamilies config toFixed httpMetrics snapshot
      auditLogsLast24h).flatMap (·.lines))) =
      some ((metricFamilies config toFixed httpMetrics snapshot auditLogsLast24h).flatMap
        (·.readings)) :=
  parse_joinLines (by simp [metricFamilies, httpFamilies])
    (plain_metricFamilies config toFixed hfixed httpMetrics snapshot auditLogsLast24h)

/-- What `getMetrics` asks of the monitoring. -/
def monitoring (config : MetricsPageConfig) : AlertOp (OperationalMetricsSnapshot × Nat) := do
  let now ← clock.zoom AlertWorld.dbLens (·.db) id
  getMetricsSnapshotWithAuditLogs config.monitoring now

/-- The page is made of what the monitoring reads. -/
private theorem getMetrics_eq (localeCompare : Text → Text → Int)
    (requestMetrics : RequestMetrics δ) :
    getMetrics config toFixed localeCompare requestMetrics =
      monitoring config >>= fun read => pure (pageText
        ((metricFamilies config toFixed (getSnapshot localeCompare requestMetrics) read.1
          read.2).flatMap (·.lines))) := by
  unfold getMetrics monitoring
  rw [bind_assoc]

/-- Every page is read back as what was put into it: the counters, and what the statements of the
    monitoring have read. -/
theorem parse_getMetrics (hfixed : ∀ d, '\n' ∉ toFixed d) (localeCompare : Text → Text → Int)
    (requestMetrics : RequestMetrics δ) {visits : List (AlertEnv × AlertWorld)} {page : Text}
    (hpage : ((getMetrics config toFixed localeCompare requestMetrics).pass visits).result =
      some (.ok page)) :
    ∃ snapshot auditLogsLast24h,
      ((monitoring config).pass visits).result = some (.ok (snapshot, auditLogsLast24h)) ∧
      Exposition.parse page =
        some ((metricFamilies config toFixed (getSnapshot localeCompare requestMetrics) snapshot
          auditLogsLast24h).flatMap (·.readings)) := by
  rw [getMetrics_eq] at hpage
  -- the monitoring does not answer, fails, or answers
  cases hread : ((monitoring config).pass visits).result with
  | none =>
    rw [Prog.pass_bind_none hread] at hpage
    cases hpage
  | some answer =>
    cases answer with
    | error e =>
      rw [Prog.pass_bind_error hread] at hpage
      cases hpage
    | ok read =>
      rw [Prog.pass_bind_ok hread, Prog.pass_pure] at hpage
      obtain rfl := Except.ok.inj (Option.some.inj hpage)
      exact ⟨read.1, read.2, rfl, parse_metricFamilies config toFixed hfixed _ _ _⟩

end Page

def sampleMetricsPage : MetricsPageConfig :=
  ⟨⟨sampleConfig, ⟨5, 60, 300, 20, 30, 60⟩⟩, true, 1⟩

/-- A path with a quote, a backslash and a line feed. -/
def awkwardPath : Text := "/a\"\\\nb".toList

def awkwardRequests : List (HttpMetricRecord Nat) :=
  [⟨"GET".toList, awkwardPath, 200, 5⟩, ⟨"GET".toList, awkwardPath, 200, 7⟩]

/-- A scrape of an empty database, after requests for that path. -/
def awkwardPage : AlertOp Text :=
  getMetrics sampleMetricsPage natText (fun _ _ => 0) (recordRequests awkwardRequests)

def scrapeEnv : AlertEnv where
  db := .available 0 "uuid"
  lease := ⟨0, none⟩
  net := { lookup := fun _ _ => none, remote := fun _ => none }
  refuses := fun _ => none

def scrapeWorld : AlertWorld where
  db := .empty
  leases := ⟨.empty, 0, []⟩
  net := .empty
  alertStates := .empty
  targetStates := .empty
  notifications := []

/-- The page shows both requests under that path, character by character. -/
theorem parse_getMetrics_awkward :
    ∃ page samples,
      (awkwardPage.pass (awkwardPage.visitsAlone scrapeEnv scrapeWorld)).result = some (.ok page) ∧
      Exposition.parse page = some samples ∧
      (⟨"hivepoint_http_requests_total".toList,
        requestLabels "GET".toList awkwardPath 200, ['2']⟩ : Exposition.Sample) ∈ samples := by
  have hpage : ∃ page,
      (awkwardPage.pass (awkwardPage.visitsAlone scrapeEnv scrapeWorld)).result =
        some (.ok page) := by
    rw [Prog.result_visitsAlone]
    exact ⟨_, rfl⟩
  obtain ⟨page, hpage⟩ := hpage
  obtain ⟨snapshot, auditLogsLast24h, -, hparse⟩ := parse_getMetrics sampleMetricsPage natText
    feed_notMem_natText (fun _ _ => 0) (recordRequests awkwardRequests) hpage
  refine ⟨page, _, hpage, hparse, ?_⟩
  -- the family of the number of requests comes first
  apply List.mem_append_left
  decide +kernel

/-! ### The samples of a page -/

/-- The values that a page shows for a metric with these labels. -/
def valuesOf (samples : List Exposition.Sample) (name : String) (labels : List (Text × Text)) :
    List Text :=
  (samples.filter fun s => s.name = name.toList && s.labels = labels).map (·.value)

/-- Only the families of that name count. -/
private theorem valuesOf_flatMap (families : List MetricFamily) (name : String)
    (labels : List (Text × Text)) :
    valuesOf (families.flatMap (·.readings)) name labels =
      (families.filter (·.name = name)).flatMap fun family =>
        (family.samples.filter (·.1 = labels)).map (·.2) := by
  -- induction on the families
  induction families with
  | nil => rfl
  | cons family families ih =>
    -- the readings of the first family come first
    have happend : valuesOf ((family :: families).flatMap (·.readings)) name labels =
        valuesOf family.readings name labels ++
          valuesOf (families.flatMap (·.readings)) name labels := by
      simp only [valuesOf, List.flatMap_cons, List.filter_append, List.map_append]
    rw [happend, ih]
    by_cases hname : family.name = name
    · rw [List.filter_cons_of_pos (by simpa using hname), List.flatMap_cons]
      congr 1
      simp only [valuesOf, MetricFamily.readings, List.filter_map, List.map_map, hname]
      simp [Function.comp_def]
    · have hname' : family.name.toList ≠ name.toList := fun h => hname (String.toList_inj.mp h)
      have hnone : valuesOf family.readings name labels = [] := by
        simp only [valuesOf, MetricFamily.readings, List.filter_map, List.map_map]
        simp [Function.comp_def, hname']
      rw [List.filter_cons_of_neg (by simpa using hname), hnone, List.nil_append]

/-- The three labels of a request determine its method, path and status. -/
private theorem requestLabels_inj {method path method' path' : Text}
    {statusCode statusCode' : Nat} :
    requestLabels method path statusCode = requestLabels method' path' statusCode' ↔
      method = method' ∧ path = path' ∧ statusCode = statusCode' := by
  have hstatus : natText statusCode = natText statusCode' ↔ statusCode = statusCode' := by
    constructor
    · intro h
      have hvalue := congrArg (Nat.ofDigitChars 10 · 0) h
      simpa only [natText, Nat.ofDigitChars_ten_toDigits] using hvalue
    · exact congrArg natText
  simp only [requestLabels, List.cons.injEq, Prod.mk.injEq, true_and, and_true, hstatus]

/-- The samples of a family with one sample for each item. -/
private theorem filter_httpFamily {δ : Type} (httpMetrics : List (HttpMetricSnapshotItem δ))
    (name help type : String) (value : HttpMetricSnapshotItem δ → Text) (method path : Text)
    (statusCode : Nat) :
    ((httpFamily httpMetrics name help type value).samples.filter
        (·.1 = requestLabels method path statusCode)).map (·.2) =
      (httpMetrics.filter (·.hasLabels method path statusCode)).map value := by
  simp only [httpFamily, List.filter_map, List.map_map, Function.comp_def, requestLabels_inj]
  congr 1
  refine List.filter_congr fun item _ => ?_
  rw [HttpMetricSnapshotItem.hasLabels, Bool.decide_and, Bool.decide_and, Bool.and_assoc]

/-- What a page shows for the labels of a request, whatever its other families say: one value for
    each of the four metrics if there was such a request, and none if there was not. -/
theorem getMetrics_reports {δ : Type} [Add δ] [Max δ] (config : MetricsPageConfig)
    {toFixed : δ → Text} (hfixed : ∀ d, '\n' ∉ toFixed d) (localeCompare : Text → Text → Int)
    {records : List (HttpMetricRecord δ)} (hmethods : ∀ r ∈ records, ':' ∉ r.method) :
    (getMetrics config toFixed localeCompare (recordRequests records)).Returns fun page =>
      ∃ samples, Exposition.parse page = some samples ∧ ∀ method path statusCode,
        let shown (name : String) := valuesOf samples name (requestLabels method path statusCode)
        let summary := summarize (records.filter (·.hasLabels method path statusCode))
        shown "hivepoint_http_requests_total" = summary.toList.map (natText ·.count) ∧
        shown "hivepoint_http_request_duration_ms_sum" =
          summary.toList.map (toFixed ·.durationSumMs) ∧
        shown "hivepoint_http_request_duration_ms_count" = summary.toList.map (natText ·.count) ∧
        shown "hivepoint_http_request_duration_ms_max" =
          summary.toList.map (toFixed ·.durationMaxMs) := by
  refine Prog.returns_bind (Prog.returns_true _) fun now _ => ?_
  refine Prog.returns_bind (Prog.returns_true _) fun (snapshot, auditLogsLast24h) _ => ?_
  rw [Prog.returns_pure]
  refine ⟨_, parse_metricFamilies config toFixed hfixed _ snapshot auditLogsLast24h,
    fun method path statusCode => ?_⟩
  have hitems := filter_getSnapshot_recordRequests localeCompare hmethods method path statusCode
  -- each of the four names is that of one family
  have hshown : ∀ name help type value,
      (metricFamilies config toFixed (getSnapshot localeCompare (recordRequests records)) snapshot
          auditLogsLast24h).filter (·.name = name) =
        [httpFamily (getSnapshot localeCompare (recordRequests records)) name help type value] →
      valuesOf ((metricFamilies config toFixed (getSnapshot localeCompare (recordRequests records))
          snapshot auditLogsLast24h).flatMap (·.readings)) name
          (requestLabels method path statusCode) =
        (summarize (records.filter (·.hasLabels method path statusCode))).toList.map value := by
    intro name help type value hfamily
    rw [valuesOf_flatMap, hfamily, List.flatMap_singleton, filter_httpFamily, hitems]
  exact ⟨hshown _ _ _ _ rfl, hshown _ _ _ _ rfl, hshown _ _ _ _ rfl, hshown _ _ _ _ rfl⟩

/-- Two requests for a path that holds a quote and a line feed. -/
def sampleRequests : List (HttpMetricRecord Nat) :=
  [⟨"GET".toList, "/a\"\nb".toList, 200, 5⟩, ⟨"GET".toList, "/a\"\nb".toList, 200, 7⟩]

/-- Two requests on the page. -/
theorem getMetrics_reports_two :
    (∀ r ∈ sampleRequests, ':' ∉ r.method) ∧
    (getMetrics sampleMetricsPage natText (fun _ _ => 0) (recordRequests sampleRequests)).Returns
      fun page => ∃ samples, Exposition.parse page = some samples ∧
        valuesOf samples "hivepoint_http_requests_total"
          (requestLabels "GET".toList "/a\"\nb".toList 200) = [['2']] := by
  have hmethods : ∀ r ∈ sampleRequests, ':' ∉ r.method := by
    simp only [sampleRequests, List.forall_mem_cons, List.not_mem_nil, false_imp_iff, implies_true,
      and_true]
    decide +kernel
  have hreports := getMetrics_reports sampleMetricsPage feed_notMem_natText (fun _ _ => 0) hmethods
  refine ⟨hmethods, hreports.mono fun page h => ?_⟩
  obtain ⟨samples, hparse, hshown⟩ := h
  refine ⟨samples, hparse, (hshown _ _ _).1.trans ?_⟩
  decide +kernel

end HivePoint
