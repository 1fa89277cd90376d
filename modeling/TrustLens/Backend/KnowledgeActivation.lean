import TrustLens.Backend.KnowledgeRuns

/-!
# Activation and readiness

What READY means, what an attempt to activate leaves behind, that a withdrawn bundle is not made
active again, and what a request that names the active bundle may rely on.
-/

namespace TrustLens.Backend.KnowledgeSeam

open Loader (Directory Libraries LoadedKnowledge loadBundle)
open Idempotency (Record)

variable {F : Functions} {first w w' : World}

/-! ### Attempts -/

/-- The steps of one call of `_activate`. -/
def Own (id : CallId) (_ : World) : Action → Prop
  | .request other _ _ _ _ _ => other = id
  | .activate other _ _ _ => other = id
  | _ => False

/-- The steps of which the client learns whether the transaction was committed. -/
def Confirmed : Action → Prop
  | .activate _ delivery _ _ => delivery ≠ .unconfirmed
  | _ => True

def Accepted (w : World) (id : CallId) : Prop :=
  ∃ p q view, w.activations id = some ⟨p, q, .answered (.accepted view)⟩

/-- The pointers and the activations are as they were. -/
def Leaves (w w' : World) : Prop :=
  w'.db.deployments = w.db.deployments ∧ w'.db.activations = w.db.activations

/-- An attempt that is not accepted leaves the pointers and the activations alone. -/
def AttemptsLeave (F : Functions) (first w : World) (guard : Action → Prop) : Prop :=
  ∀ id w', (deployments F first).Steps (fun w a => Own id w a ∧ guard a) w w' →
    ¬Accepted w' id → Leaves w w'

/-- The connection failed in a commit that took effect: the attempt will not be accepted, but its
activation happened, and its key stands for it. -/
def Unconfirmed (F : Functions) (w w' : World) (id : CallId) : Prop :=
  ∃ p q c r record, w'.activations id = some ⟨p, q, .releasing c⟩ ∧ Makes F q w w' record ∧
    (w'.db.idempotency (q.scope F))[c.recordId]? = some r ∧ r.executionState = .COMPLETED ∧
    r.outcome.bind (·.errorCode) = none ∧ r.outcome.bind (·.resourceId) = some record.id

lemma Advances.leaves {id : CallId} {call : ActivationCall} {delivery : Delivery} {db : Db}
    {process : Process} {phase : ActivationPhase} (h : Advances F w id call delivery db process phase) :
    (db.deployments = w.db.deployments ∧ db.activations = w.db.activations) ∨
      ∃ c entry knowledge recordId response state, call.phase = .activating c entry knowledge ∧
        Activated F (w.processes call.process).deploymentRef call.request c entry knowledge recordId
          w.now w.db db response state ∧
        (phase = .answered response ∨ (phase = .releasing c ∧ delivery = .unconfirmed)) := by
  have hkeeps : ∀ {db db' : Db}, Keeps db db' →
      db'.deployments = db.deployments ∧ db'.activations = db.activations :=
    fun h => ⟨h.deployments, h.activations⟩
  cases h with
  | claimed => exact .inl (hkeeps (claimTx_keeps F _ _ _ _))
  | unclaimed _ hphase hdb =>
    rcases hdb with rfl | rfl
    · exact .inl ⟨rfl, rfl⟩
    · exact .inl (hkeeps (claimTx_keeps F _ _ _ _))
  | replayed | unread | validated | undone => exact .inl ⟨rfl, rfl⟩
  | refused c before _ response _ hphase hbefore hrefused hnext =>
    have hrefused := hkeeps hrefused.keeps
    rcases hbefore with rfl | ⟨digest, r, -, rfl⟩
    · exact .inl hrefused
    · rw [register_deployments, register_activations] at hrefused
      exact .inl hrefused
  | activated c entry knowledge recordId _ response state _ hphase hactivated hnext =>
    exact .inr ⟨c, entry, knowledge, recordId, response, state, hphase, hactivated, hnext⟩
  | released c _ hphase hdb =>
    rcases hdb with rfl | ⟨r, o, -, rfl⟩
    · exact .inl ⟨rfl, rfl⟩
    · exact .inl ⟨rfl, rfl⟩

/-- The step of an activation makes its record. -/
lemma makes_of_activated {a : Action} {out : Option Response} {call : ActivationCall}
    {c : Claim} {entry : ReleaseEntry} {knowledge : LoadedKnowledge} {recordId : String}
    {response : Response} {state : DeploymentState} (hstep : step F w a = some (w', out))
    (h : Activated F (w.processes call.process).deploymentRef call.request c entry knowledge recordId
      w.now w.db w'.db response state) :
    Makes F call.request w w' (newRecord (w.processes call.process).deploymentRef call.request w.now
      state.activeBundleContentDigest recordId) := by
  refine ⟨⟨a, out, hstep⟩, ⟨call.process, state, h.pointer, h.expected, rfl, ?_⟩, ?_⟩
  · rw [h.keeps.deployments, point_self]
    rfl
  · rw [h.keeps.activations]
    exact congrArg (· ++ _) (register_activations _ _ _)

/-- A step that changes a pointer or the activations is one of a call that is accepted by it, or of
one that is not told of its commit. -/
theorem step_leaves {a : Action} {out : Option Response} (hstep : step F w a = some (w', out)) :
    Leaves w w' ∨ ∃ id delivery raises recordId, a = .activate id delivery raises recordId ∧
      (Accepted w' id ∨ (delivery = .unconfirmed ∧ Unconfirmed F w w' id)) := by
  cases a with
  | tick | withdraw | writeStore | writeReleases | verify =>
    obtain ⟨rfl, -⟩ := Prod.mk.inj (Option.some.inj hstep)
    exact .inl ⟨rfl, rfl⟩
  | beginReading other p =>
    rw [step] at hstep
    split at hstep
    · obtain ⟨rfl, -⟩ := Prod.mk.inj (Option.some.inj hstep)
      exact .inl ⟨rfl, rfl⟩
    · cases hstep
  | read other fails =>
    rw [step] at hstep
    split at hstep
    · cases hstep
    · obtain ⟨w₁, hread, hw⟩ := Option.map_eq_some_iff.mp hstep
      obtain rfl := (Prod.mk.inj hw).1
      split_ifs
      · exact .inl ⟨rfl, rfl⟩
      · rw [Leaves, readStep_db hread]
        exact .inl ⟨rfl, rfl⟩
  | request other p principal roles key body =>
    rw [step] at hstep
    split at hstep
    · cases hstep
    · split at hstep
      all_goals
        obtain ⟨rfl, -⟩ := Prod.mk.inj (Option.some.inj hstep)
        exact .inl ⟨rfl, rfl⟩
  | activate id delivery raises recordId =>
    have hwhole := hstep
    rw [step] at hstep
    split at hstep
    · cases hstep
    · rename_i call hcall
      obtain ⟨w₁, hadvance, hw⟩ := Option.map_eq_some_iff.mp hstep
      obtain rfl := (Prod.mk.inj hw).1
      obtain ⟨db, process, phase, hadvances, rfl⟩ := activateStep_advances hadvance
      rcases hadvances.leaves with hsame |
        ⟨c, entry, knowledge, recordId', response, state, hphase, hactivated, hnext⟩
      · exact .inl hsame
      · refine .inr ⟨id, delivery, raises, recordId, rfl, ?_⟩
        rcases hnext with rfl | ⟨rfl, rfl⟩
        · rw [hactivated.response]
          exact .inl ⟨_, _, _, setActivation_self _ _ _⟩
        · obtain ⟨r, o, hr, hcode, hresource, hstored⟩ := hactivated.stored
          refine .inr ⟨rfl, _, _, c, r.finished .COMPLETED o w.now, _, setActivation_self _ _ _,
            makes_of_activated hwhole hactivated, ?_, rfl, hcode, hresource⟩
          show (db.idempotency (call.request.scope F))[c.recordId]? = _
          rw [hstored, Function.update_self]
          exact List.getElem?_set_self (List.getElem?_eq_some_iff.mp hr).1

/-- An answered call takes no step. -/
lemma not_step_of_accepted {id : CallId} (h : Accepted w id) {a : Action} {out : Option Response}
    (ha : Own id w a) : step F w a ≠ some (w', out) := by
  obtain ⟨p, q, view, hcall⟩ := h
  cases a with
  | request other _ _ _ _ _ =>
    obtain rfl : other = id := ha
    simp [step, hcall]
  | activate other delivery raises recordId =>
    obtain rfl : other = id := ha
    simp [step, hcall, activateStep]
  | _ => cases ha

lemma attempt_leaves {guard : Action → Prop} (hguard : ∀ a, guard a → Confirmed a) {id : CallId}
    (h : (deployments F first).Steps (fun w a => Own id w a ∧ guard a) w w') :
    Accepted w' id ∨ Leaves w w' := by
  induction h with
  | refl => exact .inr ⟨rfl, rfl⟩
  | @tail w₁ w₂ a out hrun ok hstep ih =>
    rcases ih with haccepted | hleaves
    · exact absurd hstep (not_step_of_accepted haccepted ok.1)
    · rcases step_leaves hstep with hstep | ⟨other, delivery, raises, recordId, rfl, hcases⟩
      · exact .inr ⟨hstep.1.trans hleaves.1, hstep.2.trans hleaves.2⟩
      · obtain rfl : other = id := ok.1
        rcases hcases with haccepted | ⟨hdelivery, -⟩
        · exact .inl haccepted
        · exact absurd hdelivery (hguard _ ok.2)

/-! ### Activation and readiness -/

/-- READY is answered for knowledge that was loaded under the digest of the pointer, whose reference
is eligible and of its versions, and whose activation is active and successful; an attempt that is
told of its commits and is not accepted leaves the pointers and the activations as they were, and
one that is not told has activated the bundle under its key or changed nothing; a withdrawn bundle
is not made active again; and an accepted request stands for an activation at the pointer it
expects. -/
theorem knowledge_activation (F : Functions) {first w : World} (hfirst : Fresh first)
    (hrun : Runs F first first w) :
    (∀ id p r, w.readings id = some ⟨p, .answered r⟩ → r.ready = true → Ready F first w id p r) ∧
    AttemptsLeave F first w Confirmed ∧
    (∀ a w' out, step F w a = some (w', out) → Leaves w w' ∨
      ∃ id delivery raises recordId, a = .activate id delivery raises recordId ∧
        (Accepted w' id ∨ (delivery = .unconfirmed ∧ Unconfirmed F w w' id))) ∧
    (∀ digest w', Withdrawn w.db digest → Runs F first w w' → Withdrawn w'.db digest ∧
      ∀ deployment state, w'.db.deployments deployment = some state →
        state.activeBundleContentDigest = some digest → w.db.deployments deployment = some state) ∧
    ∀ id p q view, w.activations id = some ⟨p, q, .answered (.accepted view)⟩ →
      ∃ record, view = _activation_view record ∧ Stands F first w (F.semanticDigest q.body) record := by
  refine ⟨fun id p r hcall hready => ?_, fun id w' h hnot => ?_, fun a w' out hstep => step_leaves hstep,
    fun digest w' hwithdrawn h => withdrawn_of_runs h hwithdrawn, fun id p q view hcall => ?_⟩
  · exact (readingOk_of_runs hfirst hrun).2 id _ hcall hready
  · exact (attempt_leaves (fun _ h => h) h).resolve_left hnot
  · exact (activationOk_of_runs hfirst hrun).2 id _ hcall

/-! ### A bundle and its activation -/

def sampleDigest : Digest := String.ofList (List.replicate 64 'a')

/-- A document with what the components of a bundle without records declare. -/
def sampleMember (categories : Json) : Json :=
  .obj [("properties", .obj [("schema_version", .obj [("const", .str "1.0.0")]),
      ("envelope_version", .obj [("const", .str "1.0.0")])]),
    ("taxonomy_version", .str "2.0"), ("dimensions_version", .str "1.0.0"),
    ("registry_version", .str "0.3.0-interim"), ("families_version", .str "1.0.0"),
    ("library_version", .str "2.0.0"), ("manifest_version", .str "1.2"), ("version", .str "1.0"),
    ("indicators", .arr []), ("families", .arr []), ("negative_indicators", .arr []),
    ("categories", categories), ("dimensions", .obj []), ("sources", .arr []), ("records", .arr []),
    ("id", .str "TL-ABC-001"), ("logic", .obj []), ("evidence", .obj []), ("lifecycle", .obj [])]

def samplePaths : List String := Loader.requiredMembers ++ ["rules/TL-ABC-001.json"]

def sampleManifest : Json :=
  .obj [("manifest_schema_version", .str "1.0.0"), ("bundle_version", .str "1.0.0"),
    ("gate", .str "PASS"), ("content_digest", .str sampleDigest),
    ("component_versions", .obj [("rule_schema", .str "1.0.0"), ("taxonomy", .str "2.0"),
      ("dimensions", .str "1.0.0"), ("indicator_registry", .str "0.3.0-interim"),
      ("indicator_families", .str "1.0.0"), ("negative_library", .str "2.0.0"),
      ("evidence_manifest", .str "1.2"), ("evidence_records", .str "1.0"),
      ("extraction_schemas", .str "1.0.0")]),
    ("integrity", .obj [("algorithm", .str "sha256"), ("files", .arr (samplePaths.map fun path =>
      .obj [("path", .str path), ("sha256", .str sampleDigest),
        ("bytes", .int (if path = Loader.negativesMember then 1 else 2))]))]),
    ("counts", .obj [])]

/-- A document is told by its length. -/
def sampleLibraries : Libraries where
  sha256 _ := sampleDigest
  loads data := .ok (match data.size with
    | 0 => sampleManifest
    | 1 => sampleMember (.obj [])
    | _ => sampleMember (.arr []))
  checkSchema _ := true
  conforms _ _ := .ok true
  floatText _ := "1.0"

def sampleDirectory : Directory where
  isDir := true
  file path :=
    if path = Loader.MANIFEST_FILENAME then some ⟨#[]⟩
    else if path = Loader.negativesMember then some ⟨#[0]⟩
    else if path ∈ samplePaths then some ⟨#[0, 0]⟩ else none

/-- A deployment without a bundle, and a process that has the bundle in its store. -/
def sampleFunctions : Functions := ⟨sampleLibraries, id, fun _ => "body"⟩

def sampleRelease : Json :=
  .obj [("release_record_schema_version", .str "1.0"), ("deployment_ref", .str "local-development"),
    ("profile", .str LOCAL_PROFILE), ("authenticity_policy", .obj [("decision", .str "DEC-012"),
      ("outcome", .str "NOT_REQUIRED_BY_POLICY")]),
    ("approved_bundles", .arr [.obj [("content_digest", .str sampleDigest),
      ("release_record_ref", .str "TL-KREL-0001"), ("bundle_version", .str "1.0.0"),
      ("manifest_schema_version", .str "1.0.0")]])]

def sampleWorld : World where
  db := ⟨true, fun _ => none, [], fun deployment =>
    if deployment = "local-development" then some ⟨.NO_ACTIVE_BUNDLE, none, none⟩ else none,
    fun _ => [], []⟩
  now := 0
  processes _ := ⟨"local-development", some fun _ => none, fun digest =>
    if digest = sampleDigest then some sampleDirectory else none, fun _ => .document sampleRelease⟩
  readings _ := none
  activations _ := none

lemma sampleWorld_fresh : Fresh sampleWorld where
  wellFormed := by
    constructor
    · intro deployment state digest hstate hdigest
      simp only [sampleWorld] at hstate
      split_ifs at hstate
      obtain rfl := Option.some.inj hstate
      cases hdigest
    · intro deployment state id hstate hid
      simp only [sampleWorld] at hstate
      split_ifs at hstate
      obtain rfl := Option.some.inj hstate
      cases hid
  readings _ := rfl
  activations _ := rfl
  caches p cache hcache digest := by
    obtain rfl := Option.some.inj hcache
    rfl
  keys _ := rfl

/-- A request to activate the bundle where none is active, whose last commit is delivered so. -/
def sampleAttempt (delivery : Delivery) : List Action :=
  [.request 1 0 "admin" ["ADMINISTRATOR"] (some "0123456789abcdef") (.ok
      [("content_digest", .str sampleDigest), ("expected_active_content_digest", .null),
        ("governance_change_ref", .str "DEC-011")]),
    .activate 1 .committed none "r1", .activate 1 .committed none "r1", .activate 1 delivery none "r1"]

def sampleReading : List Action :=
  [.beginReading 2 0, .read 2 false, .read 2 false, .read 2 false, .read 2 false]

/-- What is seen of a state: the response of the first call, what the second one read, and the
pointer. -/
def seen (w : World) : Option Response × Option Bool × Option (Option Digest) :=
  ((w.activations 1).bind fun call => match call.phase with
      | .answered response => some response
      | _ => none,
    (w.readings 2).bind fun call => match call.phase with
      | .answered r => some r.ready
      | _ => none,
    (w.db.deployments "local-development").map DeploymentState.activeBundleContentDigest)

lemma runs_of_exec (guard : World → Action → Prop) (actions : List Action)
    (hguard : ∀ a ∈ actions, ∀ w, guard w a) (r : Option Response × Option Bool × Option (Option Digest))
    (h : ((deployments sampleFunctions sampleWorld).exec sampleWorld actions).map seen = some r) :
    ∃ w, (deployments sampleFunctions sampleWorld).Steps guard sampleWorld w ∧ seen w = r := by
  obtain ⟨w, hexec, hseen⟩ := Option.map_eq_some_iff.mp h
  exact ⟨w, System.steps_of_exec hguard hexec, hseen⟩

/-- The commit of the activation takes effect but is not confirmed: the attempt is answered 503,
and the bundle is active. -/
theorem unconfirmed_attempt : ¬∀ F first w, Fresh first → Runs F first first w →
    AttemptsLeave F first w fun _ => True := by
  intro h
  have hown : ∀ a ∈ sampleAttempt .unconfirmed ++ [.activate 1 .committed none "r1"], ∀ w,
      Own 1 w a ∧ True := by
    intro a ha w
    simp only [sampleAttempt, List.cons_append, List.nil_append, List.mem_cons, List.not_mem_nil,
      or_false] at ha
    rcases ha with rfl | rfl | rfl | rfl | rfl
    all_goals exact ⟨rfl, trivial⟩
  obtain ⟨w, hsteps, hseen⟩ := runs_of_exec _ _ hown
    (some (.error "DEPENDENCY_UNAVAILABLE" []), none, some (some sampleDigest)) (by decide +kernel)
  obtain ⟨hresponse, -, hpointer⟩ : _ ∧ _ ∧ _ := ⟨congrArg Prod.fst hseen,
    congrArg (·.2.1) hseen, congrArg (·.2.2) hseen⟩
  have hleaves : Leaves sampleWorld w := by
    refine h sampleFunctions sampleWorld sampleWorld sampleWorld_fresh (.refl _) 1 w hsteps ?_
    rintro ⟨p, q, view, hcall⟩
    simp only [seen, hcall, Option.bind_some] at hresponse
    cases Option.some.inj hresponse
  simp only [seen, hleaves.1] at hpointer
  cases Option.some.inj hpointer

/-- The same attempt with a confirmed commit is accepted, and the deployment is ready. -/
theorem knowledge_activation_sample : ∃ w p r, w.readings 2 = some ⟨p, .answered r⟩ ∧
    r.ready = true ∧ Ready sampleFunctions sampleWorld w 2 p r ∧ Accepted w 1 := by
  obtain ⟨w, hrun, hseen⟩ := runs_of_exec System.anyStep (sampleAttempt .committed ++ sampleReading)
    (fun _ _ _ => trivial) (some (.accepted ⟨"r1", .ACTIVATION, sampleDigest, none, .ACTIVE, .SUCCEEDED,
      0⟩), some true, some (some sampleDigest)) (by decide +kernel)
  have hready := (knowledge_activation sampleFunctions sampleWorld_fresh hrun).1
  have hresponse := congrArg Prod.fst hseen
  have hread : (seen w).2.1 = some true := congrArg (·.2.1) hseen
  simp only [seen] at hresponse hread
  obtain ⟨⟨p, phase⟩, hcall, hphase⟩ := Option.bind_eq_some_iff.mp hread
  obtain ⟨⟨p', q, phase'⟩, hcall', hphase'⟩ := Option.bind_eq_some_iff.mp hresponse
  cases phase with
  | answered r =>
    obtain hr : r.ready = true := Option.some.inj hphase
    refine ⟨w, p, r, hcall, hr, hready 2 p r hcall hr, ?_⟩
    cases phase' with
    | answered response =>
      obtain rfl := Option.some.inj hphase'
      exact ⟨p', q, _, hcall'⟩
    | _ => cases hphase'
  | _ => cases hphase

end TrustLens.Backend.KnowledgeSeam
