import QrTrust.Network.Json
import Mathlib

/-! # Runtime safety providers

    A provider looks at a destination while it is scanned.  What it reports is a
    verdict with the instant it observed; the clear provider and the composite
    one stamp it with the instant of the scan (`clear_observed`,
    `composite_observed`). -/

namespace RuntimeSafety

/-- `RuntimeSafetyStatus`. -/
inductive RuntimeSafetyStatus where
  | clear
  | risky
  | blocked
  | unavailable
  deriving DecidableEq, Repr

/-- The text of a status. -/
def RuntimeSafetyStatus.text : RuntimeSafetyStatus → String
  | .clear => "clear"
  | .risky => "risky"
  | .blocked => "blocked"
  | .unavailable => "unavailable"

/-- `RuntimeSafetyInput`. -/
structure RuntimeSafetyInput where
  destinationUrl : Url
  resolverUrl : Option String := none
  finalUrl : Option String := none
  observedRedirectHops : Option Nat := none
  observedAt : Int

/-- `RuntimeSafetyVerdict`. -/
structure RuntimeSafetyVerdict where
  status : RuntimeSafetyStatus
  provider : String
  observedAt : String
  effectiveUrl : String
  riskScoreDelta : Rat
  reasonCodes : List String
  message : String
  deriving DecidableEq

/-- `RuntimeSafetySignal`. -/
structure RuntimeSafetySignal where
  status : RuntimeSafetyStatus
  provider : String
  riskScoreDelta : Rat
  reasonCodes : List String
  message : String
  deriving DecidableEq

/-- `RuntimeSafetyProviderShape`. -/
structure RuntimeSafetyProvider where
  inspect : RuntimeSafetyInput → RuntimeSafetyVerdict

/-- The details of a verdict. -/
structure VerdictDetails where
  provider : Option String := none
  riskScoreDelta : Rat
  reasonCodes : List String
  message : String

section Providers

variable (toISOString : Int → String)

/-- `makeVerdict`. -/
def makeVerdict (input : RuntimeSafetyInput) (status : RuntimeSafetyStatus)
    (details : VerdictDetails) : RuntimeSafetyVerdict where
  status := status
  provider := details.provider.getD "deterministic-runtime-safety"
  observedAt := toISOString input.observedAt
  effectiveUrl := input.finalUrl.getD input.destinationUrl.href
  riskScoreDelta := details.riskScoreDelta
  reasonCodes := details.reasonCodes
  message := details.message

/-- `makeClearRuntimeSafetyProvider`. -/
def makeClearRuntimeSafetyProvider : RuntimeSafetyProvider where
  inspect input := makeVerdict toISOString input .clear
    { riskScoreDelta := 0
      reasonCodes := ["runtime_clear"]
      message := "Runtime provider did not report current destination risk." }

/-- `mergedStatus`: the worst of the signals. -/
def mergedStatus (signals : List RuntimeSafetySignal) : RuntimeSafetyStatus :=
  if signals.any fun current => current.status = .blocked then .blocked
  else if signals.any fun current => current.status = .risky then .risky
  else if signals.any fun current => current.status = .unavailable then .unavailable
  else .clear

/-- `mergedMessage`: the message of the first signal that decides. -/
def mergedMessage (status : RuntimeSafetyStatus) (signals : List RuntimeSafetySignal) : String :=
  match signals.find? fun current => current.status = status with
  | some decisive => decisive.message
  | none =>
      if status = .clear then "Runtime providers did not report current destination risk."
      else "Runtime providers reported scan-time destination risk."

/-- `mergeSignals`. -/
def mergeSignals (input : RuntimeSafetyInput) (provider : String)
    (signals : List RuntimeSafetySignal) : RuntimeSafetyVerdict :=
  if signals = [] then
    makeVerdict toISOString input .clear
      { provider := some provider
        riskScoreDelta := 0
        reasonCodes := ["runtime_clear"]
        message := "No runtime providers reported current destination risk." }
  else
    makeVerdict toISOString input (mergedStatus signals)
      { provider := some provider
        riskScoreDelta := min 100 (signals.map RuntimeSafetySignal.riskScoreDelta).sum
        reasonCodes := (signals.flatMap RuntimeSafetySignal.reasonCodes).eraseDups
        message := mergedMessage (mergedStatus signals) signals }

/-- An inspector or a reputation provider. -/
abbrev RuntimeInspector := RuntimeSafetyInput → RuntimeSafetySignal

/-- `CompositeRuntimeSafetyOptions`. -/
structure CompositeRuntimeSafetyOptions where
  providerName : Option String := none
  redirectInspector : Option RuntimeInspector := none
  reputationProvider : Option RuntimeInspector := none

/-- The inspectors that are there, in order. -/
def CompositeRuntimeSafetyOptions.inspectors (options : CompositeRuntimeSafetyOptions) :
    List RuntimeInspector :=
  [options.redirectInspector, options.reputationProvider].filterMap id

/-- `makeCompositeRuntimeSafetyProvider`. -/
def makeCompositeRuntimeSafetyProvider (options : CompositeRuntimeSafetyOptions) :
    RuntimeSafetyProvider where
  inspect input := mergeSignals toISOString input (options.providerName.getD "runtime-safety")
    (options.inspectors.map fun inspector => inspector input)

variable {toISOString}

/-- The clear provider observes at the scan. -/
theorem clear_observed (input : RuntimeSafetyInput) :
    ((makeClearRuntimeSafetyProvider toISOString).inspect input).observedAt
      = toISOString input.observedAt := rfl

/-- A composite provider observes at the scan. -/
theorem composite_observed (options : CompositeRuntimeSafetyOptions) (input : RuntimeSafetyInput) :
    ((makeCompositeRuntimeSafetyProvider toISOString options).inspect input).observedAt
      = toISOString input.observedAt := by
  show (mergeSignals ..).observedAt = _
  rw [mergeSignals]
  split <;> rfl

end Providers

end RuntimeSafety
