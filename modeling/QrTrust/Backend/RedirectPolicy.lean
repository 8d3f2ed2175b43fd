import QrTrust.Backend.PayloadRevalidation

/-! # Redirect policy

    What the scanner makes of a payload whose redirects nobody observed: an
    enrolled resolver, or a plain destination. -/

namespace RedirectPolicy

open PayloadRevalidation

/-- `RedirectPolicyVerdict`. -/
structure RedirectPolicyVerdict where
  state : String
  resolverUrl : Option String
  finalUrl : Option String
  hopCount : Option Int
  reason : String
  openAllowed : Bool
  effectiveUrl : String
  policyLabel : Option String
  cause : Option String
  deriving DecidableEq, Repr

/-- `_load_redirect_policy`; a file that is no JSON raises. -/
def loadRedirectPolicy (policyFile : Option PolicyFile) :
    Except PyError (Option (List (String × PyJson))) :=
  match policyFile with
  | none => .ok none
  | some file =>
      match file.content with
      | .error text => .error (.valueError text)
      | .ok (.dict fields) =>
          match PyJson.get fields "redirect_policy" with
          | .dict policy => .ok (some policy)
          | _ => .ok none
      | .ok _ => .ok none

/-- `_policy_label`, of an `int`. -/
def policyLabel (maxHops : PyJson) : String :=
  let text := match maxHops with
    | .int n => toString n
    | .bool b => if b then "True" else "False"
    | _ => ""
  "resolver_to_final:max_" ++ text ++ "_hop" ++ (if maxHops.eqInt 1 then "" else "s")

/-- The verdict on a destination that is not a resolver. -/
def notApplicable (payload reason : String) : RedirectPolicyVerdict where
  state := "not_applicable"
  resolverUrl := none
  finalUrl := none
  hopCount := none
  reason := reason
  openAllowed := true
  effectiveUrl := payload
  policyLabel := none
  cause := none

/-- The verdict on an enrolled resolver. -/
def unobserved (payload resolverBaseUrl : String) (maxHopsRaw : PyJson) : RedirectPolicyVerdict where
  state := "unknown"
  resolverUrl := some resolverBaseUrl
  finalUrl := none
  hopCount := none
  reason := "No live redirect observer is available; the final destination "
    ++ "and redirect chain were not observed."
  openAllowed := false
  effectiveUrl := payload
  policyLabel := some (policyLabel (if maxHopsRaw.isInt then maxHopsRaw else .int 1))
  cause := some "resolution-unavailable"

/-- `evaluate_unobserved_redirect_policy`. -/
def evaluateUnobservedRedirectPolicy (py : PyRuntime) (policyFile : Option PolicyFile)
    (payload : String) : Except PyError RedirectPolicyVerdict := do
  let policy ← loadRedirectPolicy policyFile
  let resolverBaseUrl ← urlWithoutQuery py payload
  match policy, resolverBaseUrl with
  | some policy, some resolverBaseUrl =>
      let resolverUrls ← (PyJson.get policy "resolver_urls").stringList.mapM (urlWithoutQuery py)
      if resolverUrls.contains (some resolverBaseUrl) then
        return unobserved payload resolverBaseUrl (PyJson.get policy "max_redirect_hops")
      return notApplicable payload "Destination is not an enrolled resolver URL."
  | _, _ => return notApplicable payload "No resolver policy applies to this destination."

end RedirectPolicy
