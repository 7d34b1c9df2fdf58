import HivePoint.ForStd.InetAddress
import HivePoint.ForStd.Url
import HivePoint.Native.World

/-!
# Safe external URLs

The functions of `external-url.ts`. `new URL` and the DNS lookup are the environment's.
-/

namespace HivePoint

/-- `SafeExternalUrlOptions` -/
structure SafeExternalUrlOptions where
  allowPrivateNetworkTargets : Bool
  message : String
  httpStatus : Nat

/-- The URL algorithms of the runtime. -/
structure UrlApi where
  /-- `new URL(text)`, unless it throws -/
  parse : Text → Option Url
  /-- `new URL(text, base)`, unless it throws -/
  parseRelative : Text → Text → Option Url
  /-- `url.toString()` -/
  serialize : Url → Text
  /-- `[...new URLSearchParams(text)]` -/
  parseQuery : Text → List (Text × Text)
  /-- `searchParams.toString()` -/
  formatQuery : List (Text × Text) → Text

/-- `lookup(hostname, { all: true })`, unless it rejects. -/
abbrev DnsLookup := Text → Option (List Text)

def buildUnsafeUrlError (urlString : Text) (options : SafeExternalUrlOptions) (reason : String) :
    AppError :=
  { code := .unsafeExternalUrl, message := options.message, httpStatus := options.httpStatus
    details := [("reason", reason), ("url", String.ofList urlString)] }

/-! ### Addresses -/

/-- `Number(part)` of a part between two dots that `isIP` lets through, decimal digits. Every
other part is taken for `NaN`. -/
def toNumber? (part : Text) : Option Nat :=
  if part.all Char.isDigit then some (Nat.ofDigitChars 10 part 0) else none

def isPrivateIpv4 (address : Text) : Bool :=
  match (address.splitOn '.').map toNumber? with
  | [some a, some b, some _, some _] =>
    a = 0 ||
    a = 10 ||
    a = 127 ||
    (a = 100 && b ≥ 64 && b ≤ 127) ||
    (a = 169 && b = 254) ||
    (a = 172 && b ≥ 16 && b ≤ 31) ||
    (a = 192 && b = 168) ||
    (a = 198 && (b = 18 || b = 19))
  | _ => true

def isPrivateIpv6 (address : Text) : Bool :=
  let normalized := address.trim.toLowerCase
  normalized = "::".toList ||
  normalized = "::1".toList ||
  normalized.startsWith "fc".toList ||
  normalized.startsWith "fd".toList ||
  normalized.startsWith "fe8".toList ||
  normalized.startsWith "fe9".toList ||
  normalized.startsWith "fea".toList ||
  normalized.startsWith "feb".toList

def isPrivateAddress (address : Text) : Bool :=
  let ipVersion := Inet.isIP address
  if ipVersion = 4 then isPrivateIpv4 address
  else if ipVersion = 6 then isPrivateIpv6 address
  else true

/-! ### The check -/

def parseUrl (api : UrlApi) (urlString : Text) (options : SafeExternalUrlOptions) :
    Except AppError Url := do
  let some url := api.parse urlString
    | throw (buildUnsafeUrlError urlString options "INVALID_URL")
  if url.protocol ≠ "http:".toList ∧ url.protocol ≠ "https:".toList then
    throw (buildUnsafeUrlError urlString options "UNSUPPORTED_PROTOCOL")
  if url.username ≠ [] ∨ url.password ≠ [] ∨ url.hostname = [] then
    throw (buildUnsafeUrlError urlString options "INVALID_AUTHORITY")
  return url

def hasBlockedHostname (hostname : Text) : Bool :=
  let normalized := hostname.trim.toLowerCase
  normalized = "localhost".toList ||
  normalized.endsWith ".localhost".toList ||
  normalized.endsWith ".local".toList

def resolveAddresses (lookup : DnsLookup) (hostname urlString : Text)
    (options : SafeExternalUrlOptions) : Except AppError (List Text) :=
  if Inet.isIP hostname ≠ 0 then return [hostname]
  else
    match lookup hostname with
    | some addresses => return addresses
    | none => throw (buildUnsafeUrlError urlString options "DNS_LOOKUP_FAILED")

def assertSafeExternalHttpUrl (api : UrlApi) (lookup : DnsLookup) (urlString : Text)
    (options : SafeExternalUrlOptions) : Except AppError Url := do
  let url ← parseUrl api urlString options
  if options.allowPrivateNetworkTargets then
    return url
  if hasBlockedHostname url.hostname then
    throw (buildUnsafeUrlError urlString options "BLOCKED_HOSTNAME")
  let addresses ← resolveAddresses lookup url.hostname urlString options
  if addresses.any isPrivateAddress then
    throw (buildUnsafeUrlError urlString options "PRIVATE_ADDRESS")
  return url

end HivePoint
