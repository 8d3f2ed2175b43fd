import QrTrust.Lib.Fallible
import QrTrust.Network.NatsSubjectsProofs
import QrTrust.Network.NatsSubscribers

/-! # One grammar for subscriber subjects

    The management API and the workers accept the same subjects
    (`isQrtrustNatsSubject_eq`), so whatever the API has stored, in any order, a
    worker loads again (`one_grammar`). -/

namespace NatsSubscribers

open NatsPropagation NatsSubjects PublicationWorkers Fallible
open ManagementEndpoints (normalizeSubjects isQrtrustNatsSubject isNatsSubjectToken)

/-! ## The two predicates -/

theorem isNatsSubjectToken_eq (token : String) :
    isNatsSubjectToken token = natsSubjectTokenPattern token := by
  have halphanumeric : (fun c : Char => c.isLower || c.isDigit) = isTokenChar := rfl
  rw [isNatsSubjectToken, natsSubjectTokenPattern]
  simp only [halphanumeric]
  cases token.toList with
  | nil => rfl
  | cons c rest =>
      rw [decide_eq_true (List.cons_ne_nil c rest), Bool.true_and, Bool.and_assoc, Bool.and_comm]
      rfl

theorem tokenAllowed_eq (token : String) :
    tokenAllowed token = (token = "*" || token = ">" || isNatsSubjectToken token) := by
  rw [Bool.eq_iff_iff, tokenAllowed_iff, IsFree, isNatsSubjectToken_eq, Bool.or_eq_true,
    Bool.or_eq_true, natsSubjectTokenPattern_iff, decide_eq_true_iff, decide_eq_true_iff,
    ← or_assoc, or_comm (a := token = ">")]

/-- A check that refuses, and the checks after it. -/
theorem guarded_eq_true {refused : Prop} [Decidable refused] {rest : Bool} :
    (if refused then false else rest) = true ↔ ¬ refused ∧ rest = true := by
  by_cases h : refused
  · simp [h]
  · simp [h]

/-- **AGREEMENT**: the two sides accept the same subjects. -/
theorem isQrtrustNatsSubject_eq (subject : String) :
    isQrtrustNatsSubject subject = isQrTrustSubscriberSubject subject := by
  have hallowed : (fun token => decide (token = "*") || decide (token = ">")
      || isNatsSubjectToken token) = tokenAllowed := funext fun token => (tokenAllowed_eq token).symm
  have hfamilies : ManagementEndpoints.natsSubjectFamilies = natsSubjectFamilies := rfl
  have hcontrol : ManagementEndpoints.controlPlaneNatsSubjects = controlPlaneSubscriberSubjects := rfl
  rw [isQrtrustNatsSubject, isQrTrustSubscriberSubject, Bool.eq_iff_iff]
  have htokens : (subject.toList.splitOn '.').map String.ofList = tokens subject := rfl
  simp only [hallowed, hfamilies, hcontrol, htokens]
  generalize tokens subject = words
  have hlast : ∀ word, word ≠ "" → (words.getLast?.getD "" = word ↔ words.getLast? = some word) := by
    intro word hword
    cases words.getLast? with
    | none => simp [hword.symm]
    | some last => simp
  simp only [Bool.and_eq_true, decide_eq_true_eq, List.all_eq_true, List.head?_eq_getElem?,
    Bool.or_eq_true, List.any_eq_true, List.contains_eq_mem, String.length_eq_zero_iff,
    guarded_eq_true, hlast ">" (by decide), hlast "v1" (by decide), controlPlaneSubjectRoot]
  grind

/-! ## What is stored -/

theorem valid_of_normalizeSubjects {subjects normalized : List String}
    (h : normalizeSubjects subjects = .ok normalized) :
    normalized ≠ [] ∧ ∀ subject ∈ normalized, isQrTrustSubscriberSubject subject = true := by
  obtain ⟨items, hitems, h⟩ := bind_eq_ok_iff.mp h
  have hne : items ≠ [] := by
    rw [ManagementAuth.normalizeTextItems] at hitems
    split at hitems
    · cases hitems
    · rename_i hne
      obtain rfl := Except.ok.inj hitems
      exact hne
  split at h
  · rename_i hall
    obtain rfl := Except.ok.inj h
    constructor
    · intro hnil
      rw [← List.length_eq_zero_iff, List.length_mergeSort, List.length_eq_zero_iff,
        List.dedup_eq_nil] at hnil
      exact hne hnil
    · intro subject hsubject
      rw [List.mem_mergeSort, List.mem_dedup] at hsubject
      rw [← isQrtrustNatsSubject_eq]
      exact List.all_eq_true.mp hall subject hsubject
  · cases h

/-- Every stored subscriber is active, under a durable name, and has subjects,
    all of them valid. -/
def WellStored (tables : Tables) : Prop :=
  ∀ subscriberId row, tables.natsSubscribers.get? subscriberId = some row →
    row.status = "active" ∧ row.durableName ≠ "" ∧ tables.subjectsOf subscriberId ≠ []
      ∧ ∀ subject ∈ tables.subjectsOf subscriberId, isQrTrustSubscriberSubject subject = true

theorem subjectsOf_authorized {rows : List (String × String)}
    {subscribers : OrderedMap String NatsSubscriberRow} (subscriberId other : String)
    (subjects : List String) :
    Tables.subjectsOf ⟨subscribers, rows.filter (fun row => row.1 ≠ subscriberId)
        ++ subjects.map fun subject => (subscriberId, subject)⟩ other
      = if other = subscriberId then subjects
        else Tables.subjectsOf ⟨subscribers, rows⟩ other := by
  rw [Tables.subjectsOf, List.filter_append, List.map_append, List.filter_filter, List.filter_map,
    List.map_map]
  by_cases hsame : other = subscriberId
  · -- the rows of the subscriber are gone, and the new ones are its own
    have hgone : rows.filter (fun row => decide (row.1 = other) && decide (row.1 ≠ subscriberId))
        = [] := List.filter_eq_nil_iff.mpr (by simp [hsame])
    have hown : subjects.filter ((fun row : String × String => decide (row.1 = other)) ∘
        fun subject => (subscriberId, subject)) = subjects :=
      List.filter_eq_self.mpr (by simp [hsame])
    rw [if_pos hsame, hgone, hown]
    exact List.map_id' subjects
  · -- the rows of another subscriber stay, and none is added
    have hstay : rows.filter (fun row => decide (row.1 = other) && decide (row.1 ≠ subscriberId))
        = rows.filter fun row => row.1 = other := by
      refine List.filter_congr fun row _ => ?_
      by_cases hrow : row.1 = other
      · simp [hrow, hsame]
      · simp [hrow]
    have hnone : subjects.filter ((fun row : String × String => decide (row.1 = other)) ∘
        fun subject => (subscriberId, subject)) = [] :=
      List.filter_eq_nil_iff.mpr (by simp [Ne.symm hsame])
    rw [if_neg hsame, hstay, hnone]
    exact List.append_nil _

/-- **STEP**: an authorization keeps the tables well stored. -/
theorem wellStored_authorizeNatsSubscriber {tables tables' : Tables}
    {request : NatsSubscriberAuthorizationRequest} (hstored : WellStored tables)
    (h : authorizeNatsSubscriber tables request = .ok tables') : WellStored tables' := by
  obtain ⟨subjects, hsubjects, h⟩ := bind_eq_ok_iff.mp h
  obtain ⟨hne, hvalid⟩ := valid_of_normalizeSubjects hsubjects
  rw [Tables.authorize] at h
  split at h
  · cases h
  rename_i hauthorized
  obtain rfl := Except.ok.inj h
  split at hauthorized
  · cases hauthorized
  obtain rfl := Option.some.inj hauthorized
  intro subscriberId row hrow
  rw [subjectsOf_authorized]
  by_cases hsame : subscriberId = request.subscriberId
  · rw [hsame, OrderedMap.get?_set_self] at hrow
    obtain rfl := Option.some.inj hrow
    rw [if_pos hsame]
    exact ⟨rfl, request.durableName_ne, hne, hvalid⟩
  · rw [OrderedMap.get?_set_ne _ _ hsame] at hrow
    rw [if_neg hsame]
    exact hstored subscriberId row hrow

/-- **RUN**: so does any list of requests. -/
theorem wellStored_run {tables : Tables} (hstored : WellStored tables)
    (requests : List NatsSubscriberAuthorizationRequest) : WellStored (run tables requests) := by
  induction requests generalizing tables with
  | nil => exact hstored
  | cons request requests ih =>
      rw [run, List.foldl_cons]
      cases hstep : authorizeNatsSubscriber tables request with
      | error exc => exact ih hstored
      | ok tables' => exact ih (wellStored_authorizeNatsSubscriber hstored hstep)

/-! ## What is loaded -/

theorem decode_row (subscriberId : String) {durableName : String} {subjects : List String}
    (hdurable : durableName ≠ "")
    (hvalid : ∀ subject ∈ subjects, isQrTrustSubscriberSubject subject = true) :
    decodeNatsSubscriberAuthorizationRow
        (.obj
          [("subscriber_id", .str subscriberId), ("durable_name", .str durableName),
            ("subjects", .arr (subjects.map .str))]) subscriberId
      = .ok ⟨subscriberId, durableName, subjects⟩ := by
  have hnone : (subjects.map JsonValue.str).any invalidSubject = false := by
    rw [List.any_map, List.any_eq_false]
    intro subject hsubject
    have hne : subject ≠ "" := by
      rintro rfl
      exact absurd (hvalid "" hsubject) (by decide)
    show ¬ (decide (subject = "") || !isQrTrustSubscriberSubject subject) = true
    rw [hvalid subject hsubject, decide_eq_false hne]
    decide
  have htexts : (subjects.map JsonValue.str).filterMap JsonValue.asString = subjects := by
    rw [List.filterMap_map]
    exact List.filterMap_some
  have hid : (JsonValue.obj
      [("subscriber_id", .str subscriberId), ("durable_name", .str durableName),
        ("subjects", .arr (subjects.map .str))]).stringField "subscriber_id" = some subscriberId := rfl
  have hname : (JsonValue.obj
      [("subscriber_id", .str subscriberId), ("durable_name", .str durableName),
        ("subjects", .arr (subjects.map .str))]).stringField "durable_name" = some durableName := rfl
  have harray : (JsonValue.obj
      [("subscriber_id", .str subscriberId), ("durable_name", .str durableName),
        ("subjects", .arr (subjects.map .str))]).arrayField "subjects"
      = some (subjects.map .str) := rfl
  rw [decodeNatsSubscriberAuthorizationRow, hid, hname, harray, if_neg (by simp), Option.getD_some,
    if_neg hdurable]
  dsimp only
  rw [hnone, if_neg (by simp), htexts]

/-- **LOADED**: a subscriber that is well stored is loaded, with its durable name
    and its subjects. -/
theorem load_of_wellStored {collation : String → String → Bool} {tables : Tables}
    (hstored : WellStored tables) {subscriberId : String} {row : NatsSubscriberRow}
    (hrow : tables.natsSubscribers.get? subscriberId = some row) :
    loadNatsSubscriberAuthorization (authorizationRows collation tables subscriberId) subscriberId
      = .ok ⟨subscriberId, row.durableName, (tables.subjectsOf subscriberId).mergeSort collation⟩ := by
  obtain ⟨hactive, hdurable, hne, hvalid⟩ := hstored subscriberId row hrow
  have hsorted : ∀ subject ∈ (tables.subjectsOf subscriberId).mergeSort collation,
      isQrTrustSubscriberSubject subject = true := fun subject hsubject =>
    hvalid subject (List.mem_mergeSort.mp hsubject)
  rw [authorizationRows, hrow]
  dsimp only
  rw [if_neg (by simp [hactive, hne]), loadNatsSubscriberAuthorization, List.head?_cons]
  exact decode_row subscriberId hdurable hsorted

/-- **ONE GRAMMAR**: the management API and the workers accept the same subjects,
    the documented ones, and every subscriber that the API has stored is loaded. -/
theorem one_grammar :
    (∀ subject, isQrtrustNatsSubject subject = true ↔ isQrTrustSubscriberSubject subject = true)
    ∧ (∀ subject, isQrTrustSubscriberSubject subject = true ↔ Documented subject)
    ∧ ∀ collation requests subscriberId row,
      (run .empty requests).natsSubscribers.get? subscriberId = some row →
        loadNatsSubscriberAuthorization
            (authorizationRows collation (run .empty requests) subscriberId) subscriberId
          = .ok ⟨subscriberId, row.durableName,
              ((run .empty requests).subjectsOf subscriberId).mergeSort collation⟩ := by
  refine ⟨fun subject => ?_, fun subject => accepted_iff, ?_⟩
  · rw [isQrtrustNatsSubject_eq]
  · intro collation requests subscriberId row hrow
    have hempty : WellStored .empty := fun _ _ h => by cases h
    exact load_of_wellStored (wellStored_run hempty requests) hrow

/-- A subscriber of runtime observations. -/
def runtimeRequest : NatsSubscriberAuthorizationRequest where
  subscriberId := "sub:runtime"
  displayName := "Runtime subscriber"
  durableName := "runtime-observations"
  description := ""
  subjects := [" qrtrust.*.runtime.> "]
  subscriberId_ne := by decide
  displayName_ne := by decide
  durableName_ne := by decide
  subjects_ne := by decide

theorem run_runtimeRequest : (run .empty [runtimeRequest]).natsSubscribers.get? "sub:runtime"
    = some ⟨"Runtime subscriber", "runtime-observations", "", "active"⟩ := by
  have hitems : ManagementAuth.normalizeTextItems [" qrtrust.*.runtime.> "]
      "at least one NATS subject is required" = .ok ["qrtrust.*.runtime.>"] := rfl
  have hvalid : ["qrtrust.*.runtime.>"].all isQrtrustNatsSubject = true := rfl
  have hsubjects : normalizeSubjects runtimeRequest.subjects = .ok ["qrtrust.*.runtime.>"] := by
    refine bind_eq_ok_iff.mpr ⟨_, hitems, ?_⟩
    rw [if_pos hvalid]
    simp
  have hstored : authorizeNatsSubscriber .empty runtimeRequest
      = .ok ⟨OrderedMap.empty.set "sub:runtime"
          ⟨"Runtime subscriber", "runtime-observations", "", "active"⟩,
        [("sub:runtime", "qrtrust.*.runtime.>")]⟩ :=
    bind_eq_ok_iff.mpr ⟨_, hsubjects, rfl⟩
  rw [run, List.foldl_cons, hstored]
  exact OrderedMap.get?_set_self ..

theorem one_grammar_runtime :
    loadNatsSubscriberAuthorization (authorizationRows (fun a b => decide (a ≤ b))
        (run .empty [runtimeRequest]) "sub:runtime") "sub:runtime"
      = .ok ⟨"sub:runtime", "runtime-observations",
          ((run .empty [runtimeRequest]).subjectsOf "sub:runtime").mergeSort (· ≤ ·)⟩ :=
  one_grammar.2.2 (fun a b => decide (a ≤ b)) [runtimeRequest] "sub:runtime" _ run_runtimeRequest

end NatsSubscribers
