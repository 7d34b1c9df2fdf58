import HivePoint.ForStd.Urlencoded
import HivePoint.Spec.OutboundUrls

/-!
# The forwarded query

`buildUpstreamUrl` merges the query record into the query that the caller has written into the
path, and writes the result into the upstream URL.

## Key results

- `inlineQuery_eq`: what is read of the inline query
- `buildUpstreamUrl_forwardsQuery_iff`: when the upstream gets the caller's parameters
-/

namespace HivePoint

open Url Urlencoded

/-- `URLSearchParams` is that of the standard. -/
structure StandardSearchParams (api : UrlApi) : Prop where
  parseQuery : api.parseQuery = Urlencoded.ofText
  formatQuery : api.formatQuery = Urlencoded.serialize

/-- Everything after the first question mark of the path. -/
def inlineText (path : Text) : Text := (path.dropWhile (· ≠ '?')).drop 1

/-- The part of the inline query before a question mark of its own. -/
def inlineTextRead (path : Text) : Text := (inlineText path).takeWhile (· ≠ '?')

/-- The parameters of a URL. -/
def urlParams (url : Url) : Params := Urlencoded.parse (url.query.getD [])

/-- The parameters that the query record does not name. -/
def otherParams (query params : Params) : Params :=
  params.filter fun param => param.1 ∉ query.map Prod.fst

/-- The parameters are those of the inline query, but for the entries of the record, which stand
there once each. -/
structure ForwardsQuery (inline query params : Params) : Prop where
  others : otherParams query params = otherParams query inline
  overridden : ∀ entry ∈ query, params.filter (·.1 = entry.1) = [entry]

/-! ### The query record -/

section Record

variable {query : Params}

/-- Setting the query's keys leaves the other parameters. -/
private theorem filter_foldl_setParam (keep : Text → Bool)
    (hkeep : ∀ entry ∈ query, keep entry.1 = false) (params : Params) :
    (query.foldl (fun params entry => setParam params entry.1 entry.2) params).filter (keep ·.1) =
      params.filter (keep ·.1) := by
  induction query generalizing params with
  | nil => rfl
  | cons entry query ih =>
    rw [List.foldl_cons, ih fun e he => hkeep e (List.mem_cons_of_mem entry he),
      filter_setParam_of_other entry.1 entry.2 (hkeep entry List.mem_cons_self)]

/-- Later entries have other names. -/
private theorem filter_foldl_setParam_self (hnodup : (query.map Prod.fst).Nodup) (params : Params)
    {entry : Text × Text} (hentry : entry ∈ query) :
    (query.foldl (fun params entry => setParam params entry.1 entry.2) params).filter
      (·.1 = entry.1) = [entry] := by
  induction query generalizing params with
  | nil => exact absurd hentry List.not_mem_nil
  | cons first query ih =>
    rw [List.map_cons, List.nodup_cons] at hnodup
    rw [List.foldl_cons]
    obtain rfl | hmem := List.mem_cons.mp hentry
    · have hkeep : ∀ e ∈ query, decide (e.1 = entry.1) = false := by
        intro e he
        refine decide_eq_false fun heq => hnodup.1 ?_
        rw [← heq]
        exact List.mem_map_of_mem he
      exact (filter_foldl_setParam (decide <| · = entry.1) hkeep _).trans
        (filter_setParam_self entry.1 entry.2 params)
    · exact ih hnodup.2 _ hmem

/-- The query is forwarded if the other parameters are those written inline. -/
private theorem forwardsQuery_foldl_iff (hnodup : (query.map Prod.fst).Nodup)
    (inline params : Params) :
    ForwardsQuery inline query
        (query.foldl (fun params entry => setParam params entry.1 entry.2) params) ↔
      otherParams query params = otherParams query inline := by
  have hothers : otherParams query
      (query.foldl (fun params entry => setParam params entry.1 entry.2) params) =
      otherParams query params := by
    refine filter_foldl_setParam (decide <| · ∉ query.map Prod.fst) (fun entry hentry => ?_) params
    exact decide_eq_false fun hnot => hnot (List.mem_map_of_mem hentry)
  constructor
  · intro h
    rw [← hothers]
    exact h.others
  · intro h
    exact ⟨hothers.trans h, fun entry hentry => filter_foldl_setParam_self hnodup params hentry⟩

end Record

/-! ### The inline query -/

/-- A text without question marks. -/
private theorem ne_question {t : Text} (h : '?' ∉ t) : ∀ c ∈ t, decide (c ≠ '?') = true := by
  intro c hc
  refine decide_eq_true ?_
  rintro rfl
  exact h hc

/-- What stands before the first question mark. -/
private theorem takeWhile_question {before : Text} (h : '?' ∉ before) (after : Text) :
    (before ++ '?' :: after).takeWhile (· ≠ '?') = before := by
  rw [List.takeWhile_append_of_pos (ne_question h)]
  simp

/-- The text before the first question mark is the first piece. -/
private theorem getElem?_splitOn_zero (t : Text) :
    (t.splitOn '?')[0]? = some (t.takeWhile (· ≠ '?')) := by
  by_cases h : '?' ∈ t
  · obtain ⟨before, after, rfl, hbefore⟩ := List.eq_append_cons_of_mem h
    rw [List.splitOn_append_cons_self_of_not_mem hbefore, takeWhile_question hbefore]
    rfl
  · rw [List.splitOn_eq_singleton h]
    exact congrArg some (List.takeWhile_eq_self_iff.mpr (ne_question h)).symm

/-- `split` with the limit 2 drops what follows a second question mark. -/
theorem inlineQuery_eq (path : Text) : (inlineQuery path).getD [] = inlineTextRead path := by
  unfold inlineQuery inlineTextRead inlineText
  rw [List.getElem?_take_of_lt (by decide)]
  by_cases h : '?' ∈ path
  · obtain ⟨before, after, rfl, hbefore⟩ := List.eq_append_cons_of_mem h
    have hdrop : (before ++ '?' :: after).dropWhile (· ≠ '?') = '?' :: after := by
      rw [List.dropWhile_append_of_pos (ne_question hbefore)]
      simp
    rw [List.splitOn_append_cons_self_of_not_mem hbefore, hdrop, List.getElem?_cons_succ,
      getElem?_splitOn_zero]
    rfl
  · have hdrop : path.dropWhile (· ≠ '?') = [] :=
      List.dropWhile_eq_nil_iff.mpr (ne_question h)
    rw [List.splitOn_eq_singleton h, hdrop]
    rfl

/-- What is read of the inline query has no question mark that `URLSearchParams` could drop. -/
private theorem ofText_inlineTextRead (path : Text) :
    Urlencoded.ofText (inlineTextRead path) = Urlencoded.parse (inlineTextRead path) := by
  cases htext : inlineTextRead path with
  | nil => rfl
  | cons c t =>
    have hc : c ≠ '?' := by
      have hmem : c ∈ inlineTextRead path := by rw [htext]; exact List.mem_cons_self
      simpa using List.mem_takeWhile_imp hmem
    unfold Urlencoded.ofText
    split
    · rename_i heq
      exact absurd (List.cons.inj heq).1 hc
    · rfl

/-! ### The upstream URL -/

section Upstream

variable {api : UrlApi} {config : GatewayConfig} {query : Params}

/-- The parameters of the url: those read from the path, and the query's set over them. -/
private theorem urlParams_upstreamUrl (hapi : StandardSearchParams api) (baseUrl : Url)
    (path : Text) (query : Params) :
    urlParams (upstreamUrl api baseUrl path query) =
      query.foldl (fun params entry => setParam params entry.1 entry.2)
        (Urlencoded.parse (inlineTextRead path)) := by
  have hquery : (upstreamUrl api baseUrl path query).query.getD [] =
      api.formatQuery (searchParams api path query) := by
    show (if _ = [] then none else some _ : Option Text).getD [] = _
    split
    · rename_i hnil
      exact hnil.symm
    · rfl
  rw [urlParams, hquery, hapi.formatQuery, parse_serialize, searchParams, inlineQuery_eq,
    hapi.parseQuery, ofText_inlineTextRead]

/-- The text that is returned is that of the URL which was put together. -/
private theorem exec_buildUpstreamUrl_text {base path text : Text} {env : NetEnv}
    {log log' : NetLog} (h : (buildUpstreamUrl api config base path query).exec env log =
      (.ok text, log')) :
    ∃ baseUrl, api.parse base = some baseUrl ∧
      text = api.serialize (upstreamUrl api baseUrl path query) := by
  unfold buildUpstreamUrl newUrl at h
  rw [Prog.exec_bind] at h
  -- the base is read, and the text is returned if it passes the check
  cases hbase : api.parse base with
  | none => simp [hbase] at h
  | some baseUrl =>
    refine ⟨baseUrl, rfl, ?_⟩
    rw [hbase, Prog.exec_pure] at h
    dsimp only at h
    rw [Prog.exec_bind] at h
    cases hcheck : (checkUrl api (upstreamUrlOptions config)
        (api.serialize (upstreamUrl api baseUrl path query))).exec env log with
    | mk r log₁ =>
      cases r with
      | error e => simp [hcheck] at h
      | ok url =>
        simp only [hcheck, Prog.exec_pure, Prod.mk.injEq, Except.ok.injEq] at h
        exact h.1.symm

/-- The upstream gets the caller's parameters if those that the record does not name can be read
before the second question mark. -/
theorem buildUpstreamUrl_forwardsQuery_iff (hapi : StandardSearchParams api)
    (hquery : (query.map Prod.fst).Nodup) {base path text : Text} {env : NetEnv} {log log' : NetLog}
    (h : (buildUpstreamUrl api config base path query).exec env log = (.ok text, log')) :
    ∃ baseUrl, api.parse base = some baseUrl ∧
      text = api.serialize (upstreamUrl api baseUrl path query) ∧
      (ForwardsQuery (Urlencoded.parse (inlineText path)) query
          (urlParams (upstreamUrl api baseUrl path query)) ↔
        otherParams query (Urlencoded.parse (inlineTextRead path)) =
          otherParams query (Urlencoded.parse (inlineText path))) := by
  obtain ⟨baseUrl, hbase, htext⟩ := exec_buildUpstreamUrl_text h
  refine ⟨baseUrl, hbase, htext, ?_⟩
  rw [urlParams_upstreamUrl hapi]
  exact forwardsQuery_foldl_iff hquery _ _

end Upstream

/-! ### A question mark in a value -/

/-- `https://api.example/v1/search?q=a` -/
def sampleSearchUrl : Url where
  protocol := "https:".toList
  username := []
  password := []
  hostname := "api.example".toList
  port := none
  path := ["v1".toList, "search".toList]
  path_ne_nil := by decide
  isSegment_of_mem_path := by decide
  query := some "q=a".toList
  fragment := none

/-- `https://api.example/v1/search?q=c&lang=en` -/
def overriddenSearchUrl : Url := { sampleSearchUrl with query := some "q=c&lang=en".toList }

def serializeSample (url : Url) : Text :=
  url.protocol ++ "//".toList ++ url.hostname ++ url.pathname ++
    (url.query.map ('?' :: ·)).getD []

/-- A runtime with the parameters of the standard that knows these URLs. -/
def standardUrlApi : UrlApi where
  parse text :=
    [sampleBaseUrl, sampleSearchUrl, overriddenSearchUrl].find? (serializeSample · = text)
  parseRelative _ _ := none
  serialize := serializeSample
  parseQuery := Urlencoded.ofText
  formatQuery := Urlencoded.serialize

def openGatewayConfig : GatewayConfig :=
  { sampleGatewayConfig with allowPrivateNetworkTargets := true }

/-- A network that nothing is asked of. -/
def silentNetEnv : NetEnv := ⟨fun _ _ => none, fun _ => none⟩

/-- A text that passes is remembered. -/
private theorem exec_checkUrl_of_ok {api : UrlApi} {options : SafeExternalUrlOptions} {text : Text}
    {env : NetEnv} {log : NetLog} {url : Url}
    (h : assertSafeExternalHttpUrl api (env.lookup log.passed.length) text options = .ok url) :
    (checkUrl api options text).exec env log =
      (.ok url, { log with passed := url :: log.passed }) := by
  rw [checkUrl, Prog.exec_stmt, h]

/-- Nothing stands in the way of these URLs. -/
private theorem exec_buildUpstreamUrl_search {path : Text} {query : Params} {url : Url}
    (hurl : upstreamUrl standardUrlApi sampleBaseUrl path query = url)
    (hallowed : assertSafeExternalHttpUrl standardUrlApi (silentNetEnv.lookup 0)
      (serializeSample url) (upstreamUrlOptions openGatewayConfig) = .ok url) :
    (buildUpstreamUrl standardUrlApi openGatewayConfig (serializeSample sampleBaseUrl) path
      query).exec silentNetEnv .empty = (.ok (serializeSample url), ⟨[url], []⟩) := by
  have hbase : standardUrlApi.parse (serializeSample sampleBaseUrl) = some sampleBaseUrl := by
    decide +kernel
  unfold buildUpstreamUrl newUrl
  rw [hbase, Prog.exec_bind, Prog.exec_pure]
  dsimp only
  rw [Prog.exec_bind, hurl]
  have hcheck : (checkUrl standardUrlApi (upstreamUrlOptions openGatewayConfig)
      (standardUrlApi.serialize url)).exec silentNetEnv .empty =
      (.ok url, ⟨[url], []⟩) := exec_checkUrl_of_ok hallowed
  rw [hcheck]
  rfl

/-- The sample's parameters are the standard's. -/
private theorem standardSearchParams_sample : StandardSearchParams standardUrlApi := ⟨rfl, rfl⟩

/-- The value of `/search?q=a?b` loses its second half. -/
theorem not_buildUpstreamUrl_forwardsQuery :
    ¬∀ (api : UrlApi) (config : GatewayConfig) (query : Params) (base path text : Text)
      (env : NetEnv)
      (log log' : NetLog), StandardSearchParams api → (query.map Prod.fst).Nodup →
      (buildUpstreamUrl api config base path query).exec env log = (.ok text, log') →
      ∃ baseUrl, api.parse base = some baseUrl ∧
        text = api.serialize (upstreamUrl api baseUrl path query) ∧
        ForwardsQuery (Urlencoded.parse (inlineText path)) query
          (urlParams (upstreamUrl api baseUrl path query)) := by
  intro h
  -- the second question mark ends what the code reads of the inline query
  have hurl : upstreamUrl standardUrlApi sampleBaseUrl "/search?q=a?b".toList [] =
      sampleSearchUrl := by
    decide +kernel
  obtain ⟨baseUrl, hbase, htext, hforwards⟩ :=
    h _ openGatewayConfig [] _ _ _ _ _ _ standardSearchParams_sample
    List.nodup_nil (exec_buildUpstreamUrl_search hurl (by decide +kernel))
  have hsample : standardUrlApi.parse (serializeSample sampleBaseUrl) = some sampleBaseUrl := by
    decide +kernel
  obtain rfl := Option.some.inj (hsample.symm.trans hbase)
  have hothers := hforwards.others
  rw [hurl] at hothers
  exact absurd hothers (by decide +kernel)

def overriddenPath : Text := "/search?q=a&lang=en&q=b".toList

def overridingQuery : Params := [("q".toList, "c".toList)]

/-- The record overrides both values of `q`, and `lang` arrives as it was. -/
theorem buildUpstreamUrl_forwardsQuery_sample :
    ∃ baseUrl, standardUrlApi.parse (serializeSample sampleBaseUrl) = some baseUrl ∧
      "https://api.example/v1/search?q=c&lang=en".toList =
        standardUrlApi.serialize
          (upstreamUrl standardUrlApi baseUrl overriddenPath overridingQuery) ∧
      (ForwardsQuery (Urlencoded.parse (inlineText overriddenPath)) overridingQuery
          (urlParams (upstreamUrl standardUrlApi baseUrl overriddenPath overridingQuery)) ↔
        otherParams overridingQuery (Urlencoded.parse (inlineTextRead overriddenPath)) =
          otherParams overridingQuery (Urlencoded.parse (inlineText overriddenPath))) := by
  have htext : serializeSample overriddenSearchUrl =
      "https://api.example/v1/search?q=c&lang=en".toList := by decide +kernel
  have hurl : upstreamUrl standardUrlApi sampleBaseUrl overriddenPath overridingQuery =
      overriddenSearchUrl := by decide +kernel
  have hexec := exec_buildUpstreamUrl_search hurl (by decide +kernel)
  rw [htext] at hexec
  have hkeys : (overridingQuery.map Prod.fst).Nodup := List.nodup_singleton _
  exact buildUpstreamUrl_forwardsQuery_iff standardSearchParams_sample hkeys hexec

end HivePoint
