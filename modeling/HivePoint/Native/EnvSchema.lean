import HivePoint.Native.OperationalAlertDelivery

/-!
# The environment

The settings of the alert delivery, from the environment variables through `env.schema.ts` to the
getter of `config.service.ts`, and the list of the retry delays. The other variables of the schema
are accepted or refused without regard to these.
-/

namespace HivePoint

/-! ### The schema -/

/-- What `config.ALERT_DELIVERY_TARGETS` may be. -/
inductive RawTargets where
  | missing
  | text (value : Text)
  /-- an array of objects with these keys and URLs -/
  | entries (value : List (Text × Text))
  | other

/-- The unvalidated configuration; a variable that is not set is missing. -/
structure RawEnv (ρ : Type) where
  alertDeliveryEnabled : Option Text
  alertDeliveryWebhookUrl : Option Text
  alertDeliveryTargets : RawTargets
  rest : ρ

/-- What the schema makes of the variables of the alert delivery. -/
structure AlertVariables where
  alertDeliveryEnabled : Bool
  alertDeliveryWebhookUrl : Option Text
  alertDeliveryTargets : List AlertDeliveryTarget
  deriving DecidableEq

def booleanFromString (value : Text) : Option Bool :=
  let normalized := value.trim.toLowerCase
  if normalized = "true".toList ∨ normalized = "1".toList then some true
  else if normalized = "false".toList ∨ normalized = "0".toList then some false
  else none

def emptyToUndefined (value : Text) : Option Text := if value.trim = [] then none else some value

/-- The items between `/[\r\n,;]+/`; the empty ones between two separators are dropped with the
    blank ones. -/
def targetItems (value : Text) : List Text :=
  ((value.splitOnP fun c => ['\r', '\n', ',', ';'].contains c).map Text.trim).filter (· ≠ [])

/-- `{ key, url }` of an item, with an empty key if there is no equals sign -/
def targetEntry (item : Text) : Text × Text :=
  if '=' ∈ item then
    (Text.trim (item.takeWhile (· ≠ '=')), Text.trim ((item.dropWhile (· ≠ '=')).drop 1))
  else ([], item)

section Api

variable (api : UrlApi)

/-- `z.string().url()` hands on what `new URL` parses, trimmed. -/
def urlSchema (value : Text) : Option Text :=
  if (api.parse value.trim).isSome then some value.trim else none

/-- `z.object({ key: z.string().min(1), url: z.string().url() })` -/
def targetSchema (entry : Text × Text) : Option AlertDeliveryTarget :=
  if entry.1 = [] then none else (urlSchema api entry.2).map fun url => ⟨String.ofList entry.1, url⟩

def alertDeliveryTargetsFromString : RawTargets → Option (List AlertDeliveryTarget)
  | .missing => some []
  | .text value => (targetItems value).mapM fun item => targetSchema api (targetEntry item)
  | .entries value => value.mapM (targetSchema api)
  | .other => none

/-- `z.preprocess(emptyToUndefined, z.string().url().optional())` -/
def webhookUrlSchema (value : Option Text) : Option (Option Text) :=
  match value.bind emptyToUndefined with
  | some value => (urlSchema api value).map some
  | none => some none

/-- `envSchema.parse`, where `acceptsRest` says whether the schema accepts the other variables. -/
def validateEnv {ρ : Type} (acceptsRest : ρ → Bool) (raw : RawEnv ρ) : Option AlertVariables := do
  let alertDeliveryEnabled ← raw.alertDeliveryEnabled.elim (some false) booleanFromString
  let alertDeliveryWebhookUrl ← webhookUrlSchema api raw.alertDeliveryWebhookUrl
  let alertDeliveryTargets ← alertDeliveryTargetsFromString api raw.alertDeliveryTargets
  guard (acceptsRest raw.rest)
  guard !(alertDeliveryEnabled && alertDeliveryWebhookUrl.isNone && alertDeliveryTargets.isEmpty)
  return { alertDeliveryEnabled, alertDeliveryWebhookUrl, alertDeliveryTargets }

/-! ### The retry delays -/

/-- What `config.BILLING_MANAGED_RETRY_DELAYS_MINUTES` may be. -/
inductive RawNumbers where
  | missing
  | text (value : Text)
  /-- an array of integers -/
  | numbers (value : List Int)
  /-- what no item of the schema accepts -/
  | other

/-- `value.split(',')`, each item trimmed, without the empty ones -/
def csvItems (value : Text) : List Text :=
  ((value.splitOnP (· = ',')).map Text.trim).filter (· ≠ [])

/-- `Number.parseInt(item, 10)`: the digits after a sign, up to the first other character, and
    `none` for `NaN`. Past the safe integers the number is rounded, to one that is past them. -/
def parseInt (item : Text) : Option Int :=
  let text := item.dropWhile Text.isSpace
  let sign := (text.take 1).filter fun a => a = '+' || a = '-'
  let digits := (text.drop sign.length).takeWhile Char.isDigit
  if digits = [] then none
  else
    let n : Int := Nat.ofDigitChars 10 digits 0
    some (if sign = ['-'] then -n else n)

/-- `z.number().int().positive()`: an integer is a safe one. -/
def positiveIntSchema (n : Int) : Option Nat :=
  if 0 < n ∧ n ≤ maxSafeInteger then some n.toNat else none

def intArrayFromCsv : RawNumbers → Option (List Nat)
  | .missing => some [60, 360, 1440]
  | .text value => (csvItems value).mapM fun item => (parseInt item).bind positiveIntSchema
  | .numbers value => value.mapM positiveIntSchema
  | .other => none

/-! ### The getter -/

structure AlertDeliveryTargetConfig extends AlertDeliveryTarget where
  host : Text
  deriving DecidableEq

/-- `url.host` -/
def urlHost (url : Url) : Text :=
  url.hostname ++ (url.port.map fun port => ':' :: (toString port).toList).getD []

/-- `{ key, url, host: new URL(url).host }` -/
def withHost (target : AlertDeliveryTarget) : Except Err AlertDeliveryTargetConfig :=
  match api.parse target.url with
  | some url => .ok { target with host := urlHost url }
  | none => .error (.typeError "Invalid URL")

/-- The callback of `configuredTargets.forEach`. -/
def pushTarget (targets : List AlertDeliveryTargetConfig) (target : AlertDeliveryTarget) :
    Except Err (List AlertDeliveryTargetConfig) :=
  if targets.any (·.key = target.key) then
    throw (.error s!"Duplicate alert delivery target key: {target.key}")
  else do
    let target ← withHost api target
    return targets ++ [target]

def legacyTargets (legacyWebhookUrl : Option Text) : Except Err (List AlertDeliveryTargetConfig) :=
  match legacyWebhookUrl.filter (· ≠ []) with
  | some legacyWebhookUrl => (withHost api ⟨"webhook", legacyWebhookUrl⟩).map ([·])
  | none => .ok []

/-- The getter `alertDeliveryTargets` of `AppConfigService`. -/
def AlertVariables.readTargets (env : AlertVariables) :
    Except Err (List AlertDeliveryTargetConfig) := do
  let targets ← legacyTargets api env.alertDeliveryWebhookUrl
  env.alertDeliveryTargets.foldlM (pushTarget api) targets

end Api

end HivePoint
