import HivePoint.ForStd.Json
import HivePoint.ForStd.Regex

/-!
# The server of an OpenAPI document

`extractServerUrl` of `gateway.service.ts`. The snapshot is parsed as JSON, or else searched as
YAML with regular expressions.
-/

namespace HivePoint

/-! ### JSON -/

/-- `typeof value === 'string' ? value.trim() : ''` -/
def trimmedString : Option JsonValue → Text
  | some (.string s) => s.trim
  | _ => []

/-- The items of a value for which `Array.isArray` holds. -/
def arrayItems : Option JsonValue → List JsonValue
  | some (.array items) => items
  | _ => []

def stringItem : JsonValue → Option Text
  | .string s => some s
  | _ => none

def extractServerUrlFromJson (openApiSnapshot : Text) : Option Text := do
  let parsed ← JsonValue.parse openApiSnapshot
  let firstServer := (arrayItems (parsed.get? "servers".toList)).find? fun item =>
    (item.get? "url".toList).isSome
  let serverUrl := trimmedString (firstServer.bind (·.get? "url".toList))
  let host := trimmedString (parsed.get? "host".toList)
  if serverUrl ≠ [] then return serverUrl
  else if host = [] then none
  else
    let basePath := trimmedString (parsed.get? "basePath".toList)
    let firstScheme := (arrayItems (parsed.get? "schemes".toList)).findSome? stringItem
    return firstScheme.getD "https".toList ++ "://".toList ++ host ++ basePath

/-! ### YAML -/

section Patterns

open Regex

/-- `['"]` -/
def isQuote (a : Char) : Bool := [0x22, 0x27].contains a.toNat

/-- `[^\n'"]` -/
def isValueChar (a : Char) : Bool := a ≠ '\n' && !isQuote a

/-- `[^:\n]` -/
def isKeyChar (a : Char) : Bool := a ≠ ':' && a ≠ '\n'

/-- `\n[^\s-][^:\n]*:|\s*$` -/
def blockEndPattern : Regex :=
  .alt
    (seqs [.one (· = '\n'), .one fun a => !Text.isSpace a && a ≠ '-',
      .star true isKeyChar, .one (· = ':')])
    (seqs [.star true Text.isSpace, .stop false])

/-- `(?:^|\n)servers:\s*([\s\S]*?)(?:\n[^\s-][^:\n]*:|\s*$)` -/
def serversPattern : Regex :=
  seqs [.alt (.start false) (.one (· = '\n')), literal "servers:".toList, .star true Text.isSpace,
    .group (.star false fun _ => true), blockEndPattern]

/-- `['"]?([^\n'"]+)['"]?` -/
def valuePattern : Regex :=
  seqs [.opt (.one isQuote), .group (plus isValueChar), .opt (.one isQuote)]

/-- `-\s*url:\s*['"]?([^\n'"]+)['"]?` -/
def serverUrlPattern : Regex :=
  seqs [.one (· = '-'), .star true Text.isSpace, literal "url:".toList, .star true Text.isSpace,
    valuePattern]

/-- `^\s*host:\s*['"]?([^\n'"]+)['"]?` under the flag `m`, and the same of `basePath` -/
def fieldPattern (field : String) : Regex :=
  seqs [.start true, .star true Text.isSpace, literal (field ++ ":").toList,
    .star true Text.isSpace,
    valuePattern]

/-- `^\s*-\s*['"]?(https?|wss?)['"]?\s*$` under the flag `m` -/
def schemePattern : Regex :=
  seqs [.start true, .star true Text.isSpace, .one (· = '-'), .star true Text.isSpace,
    .opt (.one isQuote),
    .group (.alt (seqs [literal "http".toList, .opt (.one (· = 's'))])
      (seqs [literal "ws".toList, .opt (.one (· = 's'))])),
    .opt (.one isQuote), .star true Text.isSpace, .stop true]

end Patterns

def extractServerUrlFromYaml (openApiSnapshot : Text) : Option Text :=
  let serversBlock := serversPattern.matchGroup openApiSnapshot
  let serverUrl := serversBlock.bind serverUrlPattern.matchGroup
  let host := (((fieldPattern "host").matchGroup openApiSnapshot).map Text.trim).getD []
  match serverUrl.filter (· ≠ []) with
  | some serverUrl => some (Text.trim serverUrl)
  | none =>
    if host = [] then none
    else
      let basePath := (((fieldPattern "basePath").matchGroup openApiSnapshot).map Text.trim).getD []
      let scheme := (schemePattern.matchGroup openApiSnapshot).getD "https".toList
      some (scheme ++ "://".toList ++ host ++ basePath)

/-- `null` and the empty text are falsy. -/
def extractServerUrl (openApiSnapshot : Option Text) : Option Text :=
  match openApiSnapshot.filter (· ≠ []) with
  | none => none
  | some openApiSnapshot =>
    match (extractServerUrlFromJson openApiSnapshot).filter (· ≠ []) with
    | some jsonServerUrl => some jsonServerUrl
    | none => extractServerUrlFromYaml openApiSnapshot

end HivePoint
