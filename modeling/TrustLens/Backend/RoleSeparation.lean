import TrustLens.Backend.Provisioning

/-!
# Administrators stay separate

Every procedure holds the row of the provisioner, locked or inserted, so one transaction at a time is
past its first statements. What that one read of the committed roles is then still true at its
commit.
-/

namespace TrustLens.Backend.Provisioning

open AuditChain (AuditEvent validate)

/-! ### Consistent tables -/

/-- The events of a type that name an assignment. -/
def naming (events : List AuditEvent) (eventType assignment : String) : ℕ :=
  events.countP fun e => e.eventType = eventType ∧ e.targetId = some assignment

/-- No two rows for one external identity. -/
def UniqueIdentities (principals : List PrincipalReference) : Prop :=
  ∀ p ∈ principals, ∀ q ∈ principals, p.external_identity = q.external_identity →
    p.external_identity ≠ none → p.principal_reference_id = q.principal_reference_id

/-- No principal holds an active administrator role beside another active role, or one role twice;
every assignment has its event, and every revocation has its own. -/
structure Consistent (db : Db) : Prop where
  identities : UniqueIdentities db.principals
  ids : (db.roles.map RoleAssignment.role_assignment_id).Nodup
  separate : ∀ a ∈ db.roles, ∀ b ∈ db.roles, a.active = true → b.active = true →
    a.principal_reference_id = b.principal_reference_id → a.role = .ADMINISTRATOR →
      b.role = .ADMINISTRATOR
  single : ∀ a ∈ db.roles, ∀ b ∈ db.roles, a.active = true → b.active = true →
    a.principal_reference_id = b.principal_reference_id → a.role = b.role → a = b
  assigned : ∀ id, naming db.events "ROLE_ASSIGNED" id =
    if id ∈ db.roles.map RoleAssignment.role_assignment_id then 1 else 0
  revoked : ∀ id, naming db.events "ROLE_REVOKED" id =
    if id ∈ (db.roles.filter (!·.active)).map RoleAssignment.role_assignment_id then 1 else 0

/-! ### What a running transaction holds -/

def Phase.inside : Phase → Bool
  | .provisioner | .insertProvisioner | .ended _ => false
  | _ => true

def isProvisioner (p : PrincipalReference) : Prop :=
  p.external_identity = some (PROVISIONER_ISSUER, PROVISIONER_SUBJECT)

/-- The provisioner's row is locked, or is the transaction's own. -/
def HoldsProvisioner (db : Db) (tx : Tx) : Prop :=
  (∃ p ∈ db.principals, isProvisioner p ∧ p.principal_reference_id ∈ tx.locks) ∨
    (∃ p ∈ tx.principals, isProvisioner p) ∧ ∀ p ∈ db.principals, ¬isProvisioner p

/-- Nothing written to the roles. -/
def Clean (tx : Tx) : Prop := tx.roles = [] ∧ tx.revocations = [] ∧ tx.events = []

/-- The grant is allowed by the committed roles. -/
def Free (db : Db) (procedure : Procedure) (principal : String) : Prop :=
  procedure.refuses (activeRoles db.roles principal) = false ∧
    procedure.role ∉ activeRoles db.roles principal

/-- The active assignments that a revocation ends. -/
def ending (db : Db) (procedure : Procedure) (principal : String) : List String :=
  (db.roles.filter fun a => a.principal_reference_id = principal && a.role = procedure.role &&
    a.active).map RoleAssignment.role_assignment_id

/-- A grant or a revocation is written, and the events of all but `todo`. -/
def Writing (db : Db) (tx : Tx) (provisioner principal : String) (todo : List String) : Prop :=
  if tx.procedure.grants then
    ∃ row : RoleAssignment, tx.roles = [row] ∧ row.revocation = none ∧
      row.principal_reference_id = principal ∧ row.role = tx.procedure.role ∧
      (∀ a ∈ db.roles, a.role_assignment_id ≠ row.role_assignment_id) ∧
      Free db tx.procedure principal ∧ tx.revocations = [] ∧
      ∃ told, told ++ todo = [row.role_assignment_id] ∧
        tx.events = told.map (roleEvent tx provisioner principal)
  else
    tx.roles = [] ∧
      tx.revocations = (ending db tx.procedure principal).map
        (·, ⟨provisioner, tx.procedure.reason⟩) ∧
      ∃ told, told ++ todo = ending db tx.procedure principal ∧
        tx.events = told.map (roleEvent tx provisioner principal)

/-- What a transaction wrote, by the statement it is at. -/
def Pending (db : Db) (tx : Tx) : Prop :=
  match tx.phase with
  | .provisioner | .insertProvisioner | .ended _ =>
    tx.locks = [] ∧ tx.principals = [] ∧ Clean tx
  | .principal _ | .insertPrincipal _ | .roles _ _ | .commit .unchanged => Clean tx
  | .assign _ principal => Clean tx ∧ tx.procedure.grants = true ∧ Free db tx.procedure principal
  | .audit provisioner principal todo => Writing db tx provisioner principal todo
  | .commit .granted | .commit .revoked =>
    ∃ provisioner principal, Writing db tx provisioner principal []
  | .commit .refused | .commit .failed => False

structure TxInv (db : Db) (tx : Tx) : Prop where
  holds : tx.phase.inside = true → HoldsProvisioner db tx
  unique : UniqueIdentities (db.principals ++ tx.principals)
  pending : Pending db tx

lemma Pending.outside {db : Db} {tx : Tx} (h : Pending db tx) (hout : tx.phase.inside = false) :
    tx.locks = [] ∧ tx.principals = [] ∧ Clean tx := by
  unfold Pending at h
  cases hphase : tx.phase with
  | provisioner | insertProvisioner | ended => rwa [hphase] at h
  | principal | insertPrincipal | roles | assign | audit | commit =>
    rw [hphase] at hout
    cases hout

/-- A transaction that holds nothing is as it was, whatever is committed. -/
lemma TxInv.of_outside {db db' : Db} {tx : Tx} (h : TxInv db tx) (hout : tx.phase.inside = false)
    (hdb' : Consistent db') : TxInv db' tx := by
  have hbare := h.pending.outside hout
  refine ⟨fun hin => ?_, ?_, ?_⟩
  · rw [hout] at hin
    cases hin
  · rw [hbare.2.1, List.append_nil]
    exact hdb'.identities
  · unfold Pending
    cases hphase : tx.phase with
    | provisioner | insertProvisioner | ended => exact hbare
    | principal | insertPrincipal | roles | assign | audit | commit =>
      rw [hphase] at hout
      cases hout

lemma txInv_finish {db : Db} (hdb : Consistent db) (tx : Tx) (outcome : Outcome) :
    TxInv db (tx.finish outcome) := by
  refine ⟨nofun, ?_, rfl, rfl, rfl, rfl, rfl⟩
  rw [Tx.finish, List.append_nil]
  exact hdb.identities

/-! ### The provisioner's row excludes the others -/

lemma locked_row {db : Db} {others : List Tx} {tx : Tx} {issuer subject id : String}
    {kind : PrincipalKind} (h : lookupPrincipal db others tx issuer subject kind = .locked id) :
    (∃ p ∈ db.principals ++ tx.principals, p.external_identity = some (issuer, subject) ∧
      p.principal_reference_id = id) ∧ ∀ t ∈ others, id ∉ t.locks := by
  unfold lookupPrincipal at h
  split at h
  · cases h
  · rename_i row hrow
    split_ifs at h with hlocked
    cases h
    have hidentity := List.find?_some hrow
    rw [decide_eq_true_eq] at hidentity
    refine ⟨⟨row, List.mem_of_find?_eq_some hrow, hidentity, rfl⟩, fun t ht hmem => hlocked ?_⟩
    exact List.any_eq_true.mpr ⟨t, ht, List.contains_iff_mem.mpr hmem⟩

lemma missing_row {db : Db} {others : List Tx} {tx : Tx} {issuer subject : String}
    {kind : PrincipalKind} (h : lookupPrincipal db others tx issuer subject kind = .missing) :
    ∀ p ∈ db.principals ++ tx.principals, p.external_identity ≠ some (issuer, subject) := by
  unfold lookupPrincipal at h
  split at h
  · rename_i hnone
    intro p hp hidentity
    exact List.find?_eq_none.mp hnone p hp (by simpa using hidentity)
  · split_ifs at h

/-- An inserted row has an identity and a key of its own. -/
lemma inserted_row {db : Db} {others : List Tx} {tx : Tx} {row : PrincipalReference}
    (h : insertPrincipal db others tx row = some true) :
    (∀ t ∈ others, ∀ p ∈ t.principals, p.external_identity ≠ row.external_identity) ∧
      ∀ p ∈ db.principals ++ tx.principals, p.external_identity ≠ row.external_identity := by
  unfold insertPrincipal at h
  dsimp only at h
  split_ifs at h with hothers
  have hview := Option.some.inj h
  rw [Bool.not_eq_true', Bool.eq_false_iff] at hview
  constructor
  · intro t ht p hp heq
    refine hothers (List.any_eq_true.mpr ⟨t, ht, List.any_eq_true.mpr ⟨p, hp, ?_⟩⟩)
    simp [heq]
  · intro p hp heq
    refine hview (List.any_eq_true.mpr ⟨p, hp, ?_⟩)
    simp [heq]

lemma uniqueIdentities_insert {ps qs : List PrincipalReference} {row : PrincipalReference}
    (hps : UniqueIdentities (ps ++ qs))
    (hrow : ∀ p ∈ ps ++ qs, p.external_identity ≠ row.external_identity) :
    UniqueIdentities (ps ++ row :: qs) := by
  have hmem : ∀ p, p ∈ ps ++ row :: qs ↔ p = row ∨ p ∈ ps ++ qs := by
    intro p
    simp only [List.mem_append, List.mem_cons]
    tauto
  intro p hp q hq heq hne
  rcases (hmem p).mp hp with rfl | hp'
  · rcases (hmem q).mp hq with rfl | hq'
    · rfl
    · exact absurd heq.symm (hrow q hq')
  · rcases (hmem q).mp hq with rfl | hq'
    · exact absurd heq (hrow p hp')
    · exact hps p hp' q hq' heq hne

/-- Whoever locks the provisioner's row is alone past it. -/
lemma outside_of_locked {db : Db} {others : List Tx} {tx : Tx} {id : String}
    (hdb : Consistent db) (hothers : ∀ t ∈ others, TxInv db t) (hown : tx.principals = [])
    (h : lookupPrincipal db others tx PROVISIONER_ISSUER PROVISIONER_SUBJECT .WORKLOAD =
      .locked id) :
    (∃ p ∈ db.principals, isProvisioner p ∧ p.principal_reference_id = id) ∧
      ∀ t ∈ others, t.phase.inside = false := by
  obtain ⟨⟨p, hp, hidentity, hid⟩, hfree⟩ := locked_row h
  rw [hown, List.append_nil] at hp
  refine ⟨⟨p, hp, hidentity, hid⟩, fun t ht => ?_⟩
  rw [← Bool.not_eq_true]
  intro hin
  rcases (hothers t ht).holds hin with ⟨q, hq, hprov, hlocked⟩ | ⟨-, hnone⟩
  · have hsame := hdb.identities p hp q hq (hidentity.trans hprov.symm) (by rw [hidentity]; nofun)
    exact hfree t ht (hid ▸ hsame ▸ hlocked)
  · exact hnone p hp hidentity

/-- So is whoever inserts it. -/
lemma outside_of_inserted {db : Db} {others : List Tx} {tx : Tx} {row : PrincipalReference}
    (hothers : ∀ t ∈ others, TxInv db t) (hown : tx.principals = []) (hprov : isProvisioner row)
    (h : insertPrincipal db others tx row = some true) :
    (∀ p ∈ db.principals, ¬isProvisioner p) ∧ ∀ t ∈ others, t.phase.inside = false := by
  obtain ⟨hpending, hview⟩ := inserted_row h
  rw [hown, List.append_nil] at hview
  have hnone : ∀ p ∈ db.principals, ¬isProvisioner p := fun p hp hpp =>
    hview p hp (hpp.trans hprov.symm)
  refine ⟨hnone, fun t ht => ?_⟩
  rw [← Bool.not_eq_true]
  intro hin
  rcases (hothers t ht).holds hin with ⟨q, hq, hqp, -⟩ | ⟨⟨q, hq, hqp⟩, -⟩
  · exact hnone q hq hqp
  · exact hpending t ht q hq (hqp.trans hprov.symm)

/-! ### Roles -/

lemma map_revise_nil (roles : List RoleAssignment) :
    roles.map (RoleAssignment.revise []) = roles :=
  List.map_id roles

lemma view_of_clean {tx : Tx} (h : Clean tx) (db : Db) :
    (tx.view db).roles = db.roles ∧ (tx.view db).events = db.events := by
  obtain ⟨hroles, hrevocations, hevents⟩ := h
  unfold Tx.view
  rw [hroles, hrevocations, hevents, map_revise_nil, List.append_nil, List.append_nil]
  exact ⟨rfl, rfl⟩

lemma revise_id (revocations : List (String × Revocation)) (a : RoleAssignment) :
    (a.revise revocations).role_assignment_id = a.role_assignment_id := by
  unfold RoleAssignment.revise
  split <;> rfl

lemma lookup_ids {ids : List String} {r : Revocation} {id : String} :
    (ids.map (·, r)).lookup id = if id ∈ ids then some r else none := by
  induction ids with
  | nil => rfl
  | cons i ids ih =>
    rw [List.map_cons, List.lookup_cons, ih]
    by_cases hid : id = i
    · simp [hid]
    · rw [beq_eq_false_iff_ne.mpr hid]
      simp [hid]

/-- A revocation ends the assignments it names and no others. -/
lemma revise_eq {ids : List String} {r : Revocation} (a : RoleAssignment) :
    a.revise (ids.map (·, r)) =
      if a.role_assignment_id ∈ ids then { a with revocation := some r } else a := by
  unfold RoleAssignment.revise
  rw [lookup_ids]
  split_ifs <;> rfl

lemma mem_ending {db : Db} {procedure : Procedure} {principal id : String} :
    id ∈ ending db procedure principal ↔ ∃ a ∈ db.roles, a.principal_reference_id = principal ∧
      a.role = procedure.role ∧ a.active = true ∧ a.role_assignment_id = id := by
  unfold ending
  simp [List.mem_map, List.mem_filter, and_assoc]

lemma mem_activeRoles {roles : List RoleAssignment} {principal : String} {role : Role} :
    role ∈ activeRoles roles principal ↔ ∃ a ∈ roles, a.active = true ∧
      a.principal_reference_id = principal ∧ a.role = role := by
  unfold activeRoles
  simp [List.mem_map, List.mem_filter, and_assoc]

lemma naming_append (events events' : List AuditEvent) (eventType id : String) :
    naming (events ++ events') eventType id =
      naming events eventType id + naming events' eventType id :=
  List.countP_append

/-- The type of the events that a procedure writes. -/
def Procedure.eventType (procedure : Procedure) : String :=
  if procedure.grants then "ROLE_ASSIGNED" else "ROLE_REVOKED"

/-- The events of some assignments name each of them once, under the procedure's type. -/
lemma naming_map_roleEvent (tx : Tx) (provisioner principal : String) {ids : List String}
    (hids : ids.Nodup) (eventType id : String) :
    naming (ids.map (roleEvent tx provisioner principal)) eventType id =
      if id ∈ ids ∧ tx.procedure.eventType = eventType then 1 else 0 := by
  induction ids with
  | nil => simp [naming]
  | cons i ids ih =>
    rw [List.nodup_cons] at hids
    have hhead : naming [roleEvent tx provisioner principal i] eventType id =
        if i = id ∧ tx.procedure.eventType = eventType then 1 else 0 := by
      have htarget : (roleEvent tx provisioner principal i).targetId = some i := rfl
      have htype : (roleEvent tx provisioner principal i).eventType = tx.procedure.eventType := rfl
      simp [naming, List.countP_singleton, htarget, htype, and_comm]
    rw [List.map_cons, ← List.singleton_append, naming_append, ih hids.2, hhead]
    by_cases hid : i = id
    · subst hid
      simp [hids.1]
    · simp [hid, Ne.symm hid]

/-- A granted role is of an account that the grant is free for. -/
lemma consistent_grant {db : Db} {tx : Tx} {provisioner principal : String} (hdb : Consistent db)
    (hunique : UniqueIdentities (db.principals ++ tx.principals))
    (hgrants : tx.procedure.grants = true) (h : Writing db tx provisioner principal []) :
    Consistent (tx.commit db) := by
  unfold Writing at h
  rw [if_pos hgrants] at h
  obtain ⟨row, hroles, hnew, rfl, hrole, hfresh, ⟨hrefuses, hfree⟩, hrevocations, told, htold,
    hevents⟩ := h
  rw [List.append_nil] at htold
  have hview : (tx.commit db).roles = db.roles ++ [row] := by
    rw [Tx.commit, Tx.view, hroles, hrevocations, map_revise_nil]
  have hlog : (tx.commit db).events =
      db.events ++ [row.role_assignment_id].map (roleEvent tx provisioner row.principal_reference_id) := by
    rw [Tx.commit, Tx.view, hevents, htold]
  have hactive : row.active = true := by rw [RoleAssignment.active, hnew]; rfl
  have hmem : ∀ a, a ∈ (tx.commit db).roles ↔ a ∈ db.roles ∨ a = row := by
    intro a
    rw [hview, List.mem_append, List.mem_singleton]
  -- an active role of the account beside the new one
  have hbeside : ∀ a ∈ db.roles, a.active = true →
      a.principal_reference_id = row.principal_reference_id →
        a.role ≠ row.role ∧ (a.role = .ADMINISTRATOR ↔ row.role = .ADMINISTRATOR) := by
    intro a ha hact hprin
    have hmemRole : a.role ∈ activeRoles db.roles row.principal_reference_id :=
      mem_activeRoles.mpr ⟨a, ha, hact, hprin, rfl⟩
    refine ⟨fun heq => hfree (hrole ▸ heq ▸ hmemRole), ?_⟩
    rw [hrole]
    cases hp : tx.procedure with
    | grant_user =>
      rw [hp] at hrefuses
      have hno : Role.ADMINISTRATOR ∉ activeRoles db.roles row.principal_reference_id := by
        simpa [Procedure.refuses] using hrefuses
      exact iff_of_false (fun hadmin => hno (hadmin ▸ hmemRole)) nofun
    | grant_administrator =>
      rw [hp] at hrefuses
      have hall : ∀ r ∈ activeRoles db.roles row.principal_reference_id, r = .ADMINISTRATOR := by
        simpa [Procedure.refuses] using hrefuses
      exact iff_of_true (hall _ hmemRole) rfl
    | revoke_user | revoke_administrator =>
      rw [hp] at hgrants
      cases hgrants
  refine ⟨hunique, ?_, ?_, ?_, ?_, ?_⟩
  · rw [hview, List.map_append, List.map_singleton]
    refine List.nodup_append.mpr ⟨hdb.ids, List.nodup_singleton _, ?_⟩
    rintro id hid _ hid' rfl
    obtain ⟨a, ha, rfl⟩ := List.mem_map.mp hid
    exact hfresh a ha (List.mem_singleton.mp hid')
  · intro a ha b hb hacta hactb hprin hadmin
    rcases (hmem a).mp ha with ha | rfl
    · rcases (hmem b).mp hb with hb | rfl
      · exact hdb.separate a ha b hb hacta hactb hprin hadmin
      · exact (hbeside a ha hacta hprin).2.mp hadmin
    · rcases (hmem b).mp hb with hb | rfl
      · exact (hbeside b hb hactb hprin.symm).2.mpr hadmin
      · exact hadmin
  · intro a ha b hb hacta hactb hprin heq
    rcases (hmem a).mp ha with ha | rfl
    · rcases (hmem b).mp hb with hb | rfl
      · exact hdb.single a ha b hb hacta hactb hprin heq
      · exact absurd heq (hbeside a ha hacta hprin).1
    · rcases (hmem b).mp hb with hb | rfl
      · exact absurd heq.symm (hbeside b hb hactb hprin.symm).1
      · rfl
  · intro id
    rw [hlog, hview, naming_append, hdb.assigned, naming_map_roleEvent _ _ _ (List.nodup_singleton _),
      List.map_append, List.map_singleton]
    have hnot : row.role_assignment_id ∉ db.roles.map RoleAssignment.role_assignment_id := by
      rintro hid
      obtain ⟨a, ha, haid⟩ := List.mem_map.mp hid
      exact hfresh a ha haid
    by_cases hid : id = row.role_assignment_id
    · subst hid
      simp [hnot, Procedure.eventType, hgrants]
    · simp [hid]
  · intro id
    have hother : ¬(id ∈ [row.role_assignment_id] ∧ tx.procedure.eventType = "ROLE_REVOKED") := by
      simp [Procedure.eventType, hgrants]
    rw [hlog, hview, naming_append, hdb.revoked, naming_map_roleEvent _ _ _ (List.nodup_singleton _),
      List.filter_append, List.filter_cons_of_neg (by simp [hactive]), List.filter_nil,
      List.append_nil, if_neg hother, add_zero]

/-- A revocation ends active assignments and leaves the others as they are. -/
lemma consistent_revoke {db : Db} {tx : Tx} {provisioner principal : String} (hdb : Consistent db)
    (hunique : UniqueIdentities (db.principals ++ tx.principals))
    (hgrants : tx.procedure.grants = false) (h : Writing db tx provisioner principal []) :
    Consistent (tx.commit db) := by
  unfold Writing at h
  rw [hgrants, if_neg Bool.false_ne_true] at h
  obtain ⟨hroles, hrevocations, told, htold, hevents⟩ := h
  rw [List.append_nil] at htold
  have hview : (tx.commit db).roles = db.roles.map (RoleAssignment.revise
      ((ending db tx.procedure principal).map (·, ⟨provisioner, tx.procedure.reason⟩))) := by
    rw [Tx.commit, Tx.view, hroles, hrevocations, List.append_nil]
  have hlog : (tx.commit db).events = db.events ++
      (ending db tx.procedure principal).map (roleEvent tx provisioner principal) := by
    rw [Tx.commit, Tx.view, hevents, htold]
  have hnodup : (ending db tx.procedure principal).Nodup := (List.filter_sublist.map _).nodup hdb.ids
  have hids : (tx.commit db).roles.map RoleAssignment.role_assignment_id =
      db.roles.map RoleAssignment.role_assignment_id := by
    rw [hview, List.map_map]
    exact List.map_congr_left fun a _ => revise_id _ a
  -- what is still active is a row that was not named
  have hactive : ∀ b ∈ (tx.commit db).roles, b.active = true → b ∈ db.roles := by
    intro b hb hact
    rw [hview] at hb
    obtain ⟨a, ha, rfl⟩ := List.mem_map.mp hb
    rw [revise_eq] at hact ⊢
    split_ifs at hact ⊢
    · cases hact
    · exact ha
  have hended : ∀ id, id ∈ ((tx.commit db).roles.filter (!·.active)).map
      RoleAssignment.role_assignment_id ↔
        id ∈ (db.roles.filter (!·.active)).map RoleAssignment.role_assignment_id ∨
          id ∈ ending db tx.procedure principal := by
    intro id
    simp only [List.mem_map, List.mem_filter, hview, Bool.not_eq_true']
    constructor
    · rintro ⟨_, ⟨⟨a, ha, rfl⟩, hact⟩, rfl⟩
      rw [revise_id]
      rw [revise_eq] at hact
      split_ifs at hact with hmem
      · exact .inr hmem
      · exact .inl ⟨a, ⟨ha, hact⟩, rfl⟩
    · rintro (⟨a, ⟨ha, hact⟩, rfl⟩ | hmem)
      · refine ⟨_, ⟨⟨a, ha, rfl⟩, ?_⟩, revise_id _ a⟩
        rw [revise_eq]
        split_ifs
        · rfl
        · exact hact
      · obtain ⟨a, ha, -, -, -, rfl⟩ := mem_ending.mp hmem
        refine ⟨_, ⟨⟨a, ha, rfl⟩, ?_⟩, revise_id _ a⟩
        rw [revise_eq, if_pos hmem]
        rfl
  have hdisjoint : ∀ id ∈ ending db tx.procedure principal,
      id ∉ (db.roles.filter (!·.active)).map RoleAssignment.role_assignment_id := by
    intro id hid hmem
    obtain ⟨a, ha, -, -, hact, rfl⟩ := mem_ending.mp hid
    obtain ⟨b, hb, hsame⟩ := List.mem_map.mp hmem
    obtain ⟨hb, hinactive⟩ := List.mem_filter.mp hb
    cases List.inj_on_of_nodup_map hdb.ids ha hb hsame.symm
    rw [hact] at hinactive
    cases hinactive
  have htype : tx.procedure.eventType = "ROLE_REVOKED" := by
    rw [Procedure.eventType, hgrants]
    rfl
  refine ⟨hunique, hids ▸ hdb.ids, ?_, ?_, ?_, ?_⟩
  · intro a ha b hb hacta hactb
    exact hdb.separate a (hactive a ha hacta) b (hactive b hb hactb) hacta hactb
  · intro a ha b hb hacta hactb
    exact hdb.single a (hactive a ha hacta) b (hactive b hb hactb) hacta hactb
  · intro id
    have hother : ¬(id ∈ ending db tx.procedure principal ∧
        tx.procedure.eventType = "ROLE_ASSIGNED") := by
      rw [htype]
      rintro ⟨-, h⟩
      exact absurd h (by decide)
    rw [hlog, hids, naming_append, hdb.assigned, naming_map_roleEvent _ _ _ hnodup, if_neg hother,
      add_zero]
  · intro id
    rw [hlog, naming_append, hdb.revoked, naming_map_roleEvent _ _ _ hnodup]
    simp only [hended, htype, and_true]
    by_cases hmem : id ∈ ending db tx.procedure principal
    · rw [if_neg (hdisjoint id hmem), if_pos hmem, if_pos (.inr hmem)]
    · simp only [hmem, or_false, if_false, add_zero]

/-- A transaction that wrote no role commits its principals alone. -/
lemma consistent_unchanged {db : Db} {tx : Tx} (hdb : Consistent db)
    (hunique : UniqueIdentities (db.principals ++ tx.principals)) (h : Clean tx) :
    Consistent (tx.commit db) := by
  obtain ⟨hroles, hevents⟩ := view_of_clean h db
  unfold Tx.commit
  constructor
  · exact hunique
  · rw [hroles]
    exact hdb.ids
  · rw [hroles]
    exact hdb.separate
  · rw [hroles]
    exact hdb.single
  · rw [hroles, hevents]
    exact hdb.assigned
  · rw [hroles, hevents]
    exact hdb.revoked

/-! ### One statement -/

/-- What a statement of one transaction keeps, while the others wait or have not begun. -/
structure Advanced (db db' : Db) (others : List Tx) (tx tx' : Tx) : Prop where
  consistent : Consistent db'
  inv : TxInv db' tx'
  alone : tx'.phase.inside = true → ∀ t ∈ others, t.phase.inside = false
  /-- only a transaction that is alone commits -/
  quiet : db' = db ∨ ∀ t ∈ others, t.phase.inside = false
  unchanged : tx.phase ≠ .commit .granted → tx.phase ≠ .commit .revoked →
    db'.roles = db.roles ∧ db'.events = db.events

lemma advanced_finish {db : Db} {others : List Tx} {tx : Tx} (hdb : Consistent db)
    (outcome : Outcome) : Advanced db db others tx (tx.finish outcome) where
  consistent := hdb
  inv := txInv_finish hdb tx outcome
  alone := nofun
  quiet := .inl rfl
  unchanged _ _ := ⟨rfl, rfl⟩

/-- A statement that leaves the tables to the others. -/
lemma advanced_of_inv {db : Db} {others : List Tx} {tx tx' : Tx} (hdb : Consistent db)
    (hinv : TxInv db tx') (halone : tx'.phase.inside = true → ∀ t ∈ others, t.phase.inside = false) :
    Advanced db db others tx tx' :=
  ⟨hdb, hinv, halone, .inl rfl, fun _ _ => ⟨rfl, rfl⟩⟩

section Statements

variable {db db' : Db} {others : List Tx} {tx tx' : Tx} {fresh : String}

lemma advanced_provisioner (hdb : Consistent db) (hothers : ∀ t ∈ others, TxInv db t)
    (htx : TxInv db tx) (hphase : tx.phase = .provisioner)
    (h : advance db others tx fresh = some (db', tx')) : Advanced db db' others tx tx' := by
  obtain ⟨hlocks, hprincipals, hclean⟩ := htx.pending.outside (by rw [hphase]; rfl)
  unfold advance at h
  rw [hphase] at h
  dsimp only at h
  split at h
  · cases h
  · cases h
    exact advanced_of_inv hdb ⟨nofun, htx.unique, hlocks, hprincipals, hclean⟩ nofun
  · cases h
    exact advanced_finish hdb .failed
  · rename_i id hlookup
    cases h
    obtain ⟨⟨p, hp, hprov, rfl⟩, houtside⟩ := outside_of_locked hdb hothers hprincipals hlookup
    refine advanced_of_inv hdb ⟨fun _ => ?_, htx.unique, hclean⟩ fun _ => houtside
    exact .inl ⟨p, hp, hprov, List.mem_cons_self⟩

lemma advanced_insertProvisioner (hdb : Consistent db) (hothers : ∀ t ∈ others, TxInv db t)
    (htx : TxInv db tx) (hphase : tx.phase = .insertProvisioner)
    (h : advance db others tx fresh = some (db', tx')) : Advanced db db' others tx tx' := by
  obtain ⟨hlocks, hprincipals, hclean⟩ := htx.pending.outside (by rw [hphase]; rfl)
  unfold advance at h
  rw [hphase] at h
  dsimp only at h
  split at h
  · cases h
  · cases h
    exact advanced_finish hdb .failed
  · rename_i hinsert
    cases h
    obtain ⟨hnone, houtside⟩ := outside_of_inserted hothers hprincipals (by exact rfl) hinsert
    refine advanced_of_inv hdb ⟨fun _ => ?_, ?_, hclean⟩ fun _ => houtside
    · exact .inr ⟨⟨_, List.mem_cons_self, rfl⟩, hnone⟩
    · exact uniqueIdentities_insert htx.unique (inserted_row hinsert).2

lemma HoldsProvisioner.lock (h : HoldsProvisioner db tx) (phase : Phase) (id : String) :
    HoldsProvisioner db { tx with phase := phase, locks := id :: tx.locks } := by
  rcases h with ⟨p, hp, hprov, hlocked⟩ | h
  · exact .inl ⟨p, hp, hprov, List.mem_cons_of_mem _ hlocked⟩
  · exact .inr h

lemma HoldsProvisioner.insert (h : HoldsProvisioner db tx) (phase : Phase)
    (row : PrincipalReference) :
    HoldsProvisioner db { tx with phase := phase, principals := row :: tx.principals } := by
  rcases h with h | ⟨⟨p, hp, hprov⟩, hnone⟩
  · exact .inl h
  · exact .inr ⟨⟨p, List.mem_cons_of_mem _ hp, hprov⟩, hnone⟩

lemma advanced_principal (hdb : Consistent db) (htx : TxInv db tx)
    (halone : ∀ t ∈ others, t.phase.inside = false) {provisioner : String}
    (hphase : tx.phase = .principal provisioner)
    (h : advance db others tx fresh = some (db', tx')) : Advanced db db' others tx tx' := by
  have hclean : Clean tx := by
    have hpending := htx.pending
    rwa [Pending, hphase] at hpending
  have hholds := htx.holds (by rw [hphase]; rfl)
  unfold advance at h
  rw [hphase] at h
  dsimp only at h
  split at h
  · cases h
  · split_ifs at h
    · cases h
      exact advanced_of_inv hdb ⟨fun _ => hholds, htx.unique, hclean⟩ fun _ => halone
    · cases h
      exact advanced_of_inv hdb ⟨fun _ => hholds, htx.unique, hclean⟩ fun _ => halone
  · cases h
    exact advanced_finish hdb .failed
  · cases h
    exact advanced_of_inv hdb ⟨fun _ => hholds.lock _ _, htx.unique, hclean⟩ fun _ => halone

lemma advanced_insertPrincipal (hdb : Consistent db) (htx : TxInv db tx)
    (halone : ∀ t ∈ others, t.phase.inside = false) {provisioner : String}
    (hphase : tx.phase = .insertPrincipal provisioner)
    (h : advance db others tx fresh = some (db', tx')) : Advanced db db' others tx tx' := by
  have hclean : Clean tx := by
    have hpending := htx.pending
    rwa [Pending, hphase] at hpending
  have hholds := htx.holds (by rw [hphase]; rfl)
  unfold advance at h
  rw [hphase] at h
  dsimp only at h
  split at h
  · cases h
  · cases h
    exact advanced_finish hdb .failed
  · rename_i hinsert
    cases h
    refine advanced_of_inv hdb ⟨fun _ => hholds.insert _ _, ?_, hclean⟩ fun _ => halone
    exact uniqueIdentities_insert htx.unique (inserted_row hinsert).2

lemma advanced_roles (hdb : Consistent db) (htx : TxInv db tx)
    (halone : ∀ t ∈ others, t.phase.inside = false) {provisioner principal : String}
    (hphase : tx.phase = .roles provisioner principal)
    (h : advance db others tx fresh = some (db', tx')) : Advanced db db' others tx tx' := by
  have hclean : Clean tx := by
    have hpending := htx.pending
    rwa [Pending, hphase] at hpending
  have hholds := htx.holds (by rw [hphase]; rfl)
  unfold advance at h
  rw [hphase] at h
  dsimp only at h
  rw [(view_of_clean hclean db).1] at h
  by_cases hgrants : tx.procedure.grants = true
  · rw [if_pos hgrants] at h
    split_ifs at h with hrefuses hactive
    · cases h
      exact advanced_finish hdb .refused
    · cases h
      exact advanced_of_inv hdb ⟨fun _ => hholds, htx.unique, hclean⟩ fun _ => halone
    · cases h
      refine advanced_of_inv hdb ⟨fun _ => hholds, htx.unique, hclean, hgrants, ?_, ?_⟩
        fun _ => halone
      · exact Bool.eq_false_iff.mpr hrefuses
      · exact fun hmem => hactive (List.contains_iff_mem.mpr hmem)
  · rw [if_neg hgrants] at h
    split_ifs at h
    · cases h
      exact advanced_of_inv hdb ⟨fun _ => hholds, htx.unique, hclean⟩ fun _ => halone
    · cases h
      refine advanced_of_inv hdb ⟨fun _ => hholds, htx.unique, ?_⟩ fun _ => halone
      obtain ⟨hroles, hrevocations, hevents⟩ := hclean
      unfold Pending Writing
      dsimp only
      rw [if_neg hgrants]
      refine ⟨hroles, ?_, [], rfl, hevents⟩
      rw [hrevocations, List.append_nil]
      rfl

lemma advanced_assign (hdb : Consistent db) (htx : TxInv db tx)
    (halone : ∀ t ∈ others, t.phase.inside = false) {provisioner principal : String}
    (hphase : tx.phase = .assign provisioner principal)
    (h : advance db others tx fresh = some (db', tx')) : Advanced db db' others tx tx' := by
  have hpending := htx.pending
  rw [Pending, hphase] at hpending
  obtain ⟨hclean, hgrants, hfree⟩ := hpending
  have hholds := htx.holds (by rw [hphase]; rfl)
  unfold advance at h
  rw [hphase] at h
  dsimp only at h
  split at h
  · cases h
  · cases h
    exact advanced_finish hdb .failed
  · rename_i hinsert
    cases h
    refine advanced_of_inv hdb ⟨fun _ => hholds, htx.unique, ?_⟩ fun _ => halone
    have hnew : ∀ a ∈ db.roles, a.role_assignment_id ≠ fresh := by
      unfold insertRole at hinsert
      dsimp only at hinsert
      split_ifs at hinsert
      have hview := Option.some.inj hinsert
      rw [(view_of_clean hclean db).1, Bool.not_eq_true', Bool.eq_false_iff] at hview
      intro a ha heq
      exact hview (List.any_eq_true.mpr ⟨a, ha, by simp [heq]⟩)
    obtain ⟨hroles, hrevocations, hevents⟩ := hclean
    unfold Pending Writing
    dsimp only
    rw [if_pos hgrants, hroles]
    exact ⟨_, rfl, rfl, rfl, rfl, hnew, hfree, hrevocations, [], rfl, hevents⟩

lemma advanced_audit (hdb : Consistent db) (htx : TxInv db tx)
    (halone : ∀ t ∈ others, t.phase.inside = false) {provisioner principal : String}
    {assignments : List String} (hphase : tx.phase = .audit provisioner principal assignments)
    (h : advance db others tx fresh = some (db', tx')) : Advanced db db' others tx tx' := by
  have hpending := htx.pending
  rw [Pending, hphase] at hpending
  have hholds := htx.holds (by rw [hphase]; rfl)
  unfold advance at h
  rw [hphase] at h
  dsimp only at h
  split at h
  · cases h
    refine advanced_of_inv hdb ⟨fun _ => hholds, htx.unique, ?_⟩ fun _ => halone
    unfold Pending
    split_ifs
    · exact ⟨provisioner, principal, hpending⟩
    · exact ⟨provisioner, principal, hpending⟩
  · rename_i assignment rest
    split_ifs at h
    · cases h
      refine advanced_of_inv hdb ⟨fun _ => hholds, htx.unique, ?_⟩ fun _ => halone
      have htold : ∀ told : List String, told ++ assignment :: rest = told ++ [assignment] ++ rest :=
        fun told => by rw [List.append_assoc, List.singleton_append]
      unfold Writing at hpending
      unfold Pending Writing
      dsimp only
      split_ifs at hpending ⊢
      · obtain ⟨row, hroles, hnew, hprin, hrole, hfresh, hfree, hrevs, told, hids, hevents⟩ := hpending
        refine ⟨row, hroles, hnew, hprin, hrole, hfresh, hfree, hrevs, told ++ [assignment], ?_, ?_⟩
        · rw [← htold, hids]
        · rw [hevents, List.map_append]
          rfl
      · obtain ⟨hroles, hrevs, told, hids, hevents⟩ := hpending
        refine ⟨hroles, hrevs, told ++ [assignment], ?_, ?_⟩
        · rw [← htold, hids]
        · rw [hevents, List.map_append]
          rfl
    · cases h
      exact advanced_finish hdb .failed

lemma advanced_commit (htx : TxInv db tx) (hdb : Consistent db)
    (halone : ∀ t ∈ others, t.phase.inside = false) {outcome : Outcome}
    (hphase : tx.phase = .commit outcome)
    (h : advance db others tx fresh = some (db', tx')) : Advanced db db' others tx tx' := by
  have hpending := htx.pending
  rw [Pending, hphase] at hpending
  unfold advance at h
  rw [hphase] at h
  cases h
  have hwritten : (∃ provisioner principal, Writing db tx provisioner principal []) →
      Consistent (tx.commit db) := by
    rintro ⟨provisioner, principal, hwriting⟩
    cases hgrants : tx.procedure.grants with
    | true => exact consistent_grant hdb htx.unique hgrants hwriting
    | false => exact consistent_revoke hdb htx.unique hgrants hwriting
  have hcommitted : Consistent (tx.commit db) := by
    cases outcome with
    | granted | revoked => exact hwritten hpending
    | unchanged => exact consistent_unchanged hdb htx.unique hpending
    | refused | failed => exact hpending.elim
  refine ⟨hcommitted, txInv_finish hcommitted tx outcome, nofun, .inr halone, ?_⟩
  intro hgranted hrevoked
  rw [hphase] at hgranted hrevoked
  cases outcome with
  | granted => exact absurd rfl hgranted
  | revoked => exact absurd rfl hrevoked
  | unchanged => exact view_of_clean hpending db
  | refused | failed => exact hpending.elim

/-- One statement of one transaction. -/
lemma advanced (hdb : Consistent db) (hothers : ∀ t ∈ others, TxInv db t) (htx : TxInv db tx)
    (halone : tx.phase.inside = true → ∀ t ∈ others, t.phase.inside = false)
    (h : advance db others tx fresh = some (db', tx')) : Advanced db db' others tx tx' := by
  cases hphase : tx.phase with
  | provisioner => exact advanced_provisioner hdb hothers htx hphase h
  | insertProvisioner => exact advanced_insertProvisioner hdb hothers htx hphase h
  | principal => exact advanced_principal hdb htx (halone (by rw [hphase]; rfl)) hphase h
  | insertPrincipal => exact advanced_insertPrincipal hdb htx (halone (by rw [hphase]; rfl)) hphase h
  | roles => exact advanced_roles hdb htx (halone (by rw [hphase]; rfl)) hphase h
  | assign => exact advanced_assign hdb htx (halone (by rw [hphase]; rfl)) hphase h
  | audit => exact advanced_audit hdb htx (halone (by rw [hphase]; rfl)) hphase h
  | commit => exact advanced_commit htx hdb (halone (by rw [hphase]; rfl)) hphase h
  | ended =>
    unfold advance at h
    rw [hphase] at h
    cases h

end Statements

/-! ### Every interleaving -/

/-- The tables are consistent, every transaction keeps its own, and at most one is past the
provisioner. -/
structure SysInv (s : Sys) : Prop where
  consistent : Consistent s.db
  txs : ∀ (i : ℕ) t, s.txs[i]? = some t → TxInv s.db t
  alone : ∀ (i j : ℕ) t u, s.txs[i]? = some t → s.txs[j]? = some u → t.phase.inside = true →
    u.phase.inside = true → i = j

lemma txInv_start {db : Db} (hdb : Consistent db) (procedure : Procedure)
    (issuer subject correlation_id : String) :
    TxInv db (.start procedure issuer subject correlation_id) ∧
      (Tx.start procedure issuer subject correlation_id).phase.inside = false := by
  have hunique : UniqueIdentities (db.principals ++ []) := by
    rw [List.append_nil]
    exact hdb.identities
  unfold Tx.start
  split_ifs
  · exact ⟨⟨nofun, hunique, rfl, rfl, rfl, rfl, rfl⟩, rfl⟩
  · exact ⟨⟨nofun, hunique, rfl, rfl, rfl, rfl, rfl⟩, rfl⟩

lemma mem_others {s : Sys} {i : ℕ} {t : Tx} :
    t ∈ s.txs.eraseIdx i ↔ ∃ j, j ≠ i ∧ s.txs[j]? = some t :=
  List.mem_eraseIdx_iff_getElem?

/-- A transaction is replaced by one that fits the tables, and the others fit them as they are. -/
lemma sysInv_set {s : Sys} {db' : Db} {i : ℕ} {tx tx' : Tx} (hs : SysInv s)
    (htx : s.txs[i]? = some tx) (hdb' : Consistent db') (htx' : TxInv db' tx')
    (halone : tx'.phase.inside = true → ∀ t ∈ s.txs.eraseIdx i, t.phase.inside = false)
    (hquiet : db' = s.db ∨ ∀ t ∈ s.txs.eraseIdx i, t.phase.inside = false) :
    SysInv ⟨db', s.txs.set i tx'⟩ := by
  have hlt : i < s.txs.length := (List.getElem?_eq_some_iff.mp htx).1
  have hget : ∀ (j : ℕ) t, (s.txs.set i tx')[j]? = some t → (j = i ∧ t = tx') ∨ j ≠ i ∧
      s.txs[j]? = some t := by
    intro j t hj
    by_cases hji : j = i
    · rw [hji, List.getElem?_set_self hlt] at hj
      exact .inl ⟨hji, (Option.some.inj hj).symm⟩
    · rw [List.getElem?_set_ne (Ne.symm hji)] at hj
      exact .inr ⟨hji, hj⟩
  refine ⟨hdb', fun j t hj => ?_, fun j k t u hj hk htin huin => ?_⟩
  · rcases hget j t hj with ⟨-, rfl⟩ | ⟨hji, hold⟩
    · exact htx'
    · rcases hquiet with rfl | hout
      · exact hs.txs j t hold
      · exact (hs.txs j t hold).of_outside (hout t (mem_others.mpr ⟨j, hji, hold⟩)) hdb'
  · rcases hget j t hj with ⟨rfl, rfl⟩ | ⟨hji, holdj⟩
    · rcases hget k u hk with ⟨rfl, -⟩ | ⟨hki, holdk⟩
      · rfl
      · rw [halone htin u (mem_others.mpr ⟨k, hki, holdk⟩)] at huin
        cases huin
    · rcases hget k u hk with ⟨rfl, rfl⟩ | ⟨hki, holdk⟩
      · rw [halone huin t (mem_others.mpr ⟨j, hji, holdj⟩)] at htin
        cases htin
      · exact hs.alone j k t u holdj holdk htin huin

lemma advanced_next {s : Sys} {i : ℕ} {fresh : String} {tx tx' : Tx} {db' : Db} (hs : SysInv s)
    (htx : s.txs[i]? = some tx)
    (h : advance s.db (s.txs.eraseIdx i) tx fresh = some (db', tx')) :
    Advanced s.db db' (s.txs.eraseIdx i) tx tx' := by
  refine advanced hs.consistent (fun t ht => ?_) (hs.txs i tx htx) (fun hin t ht => ?_) h
  · obtain ⟨j, -, hj⟩ := mem_others.mp ht
    exact hs.txs j t hj
  · obtain ⟨j, hji, hj⟩ := mem_others.mp ht
    rw [← Bool.not_eq_true]
    exact fun htin => hji (hs.alone j i t tx hj htx htin hin)

/-- What an action does to the transactions. -/
inductive Stepped (s : Sys) : Action → Sys → Prop where
  | begun (procedure : Procedure) (issuer subject correlation_id : String) :
      Stepped s (.begin procedure issuer subject correlation_id)
        ⟨s.db, s.txs ++ [.start procedure issuer subject correlation_id]⟩
  | advanced {i : ℕ} {fresh : String} {tx tx' : Tx} {db' : Db} (htx : s.txs[i]? = some tx)
      (h : advance s.db (s.txs.eraseIdx i) tx fresh = some (db', tx')) :
      Stepped s (.next i fresh) ⟨db', s.txs.set i tx'⟩
  | failed {i : ℕ} {tx : Tx} (htx : s.txs[i]? = some tx) (hrunning : tx.running = true) :
      Stepped s (.fail i) ⟨s.db, s.txs.set i (tx.finish .failed)⟩

lemma stepped {s s' : Sys} {a : Action} (h : step s a = some s') : Stepped s a s' := by
  cases a with
  | begin procedure issuer subject correlation_id =>
    cases h
    exact .begun procedure issuer subject correlation_id
  | next i fresh =>
    unfold step at h
    dsimp only at h
    split at h
    · cases h
    · rename_i tx htx
      obtain ⟨⟨db', tx'⟩, hadvance, rfl⟩ := Option.map_eq_some_iff.mp h
      exact .advanced htx hadvance
  | fail i =>
    unfold step at h
    dsimp only at h
    split at h
    · cases h
    · rename_i tx htx
      split_ifs at h with hrunning
      cases h
      exact .failed htx hrunning

lemma SysInv.step {s s' : Sys} {a : Action} (hs : SysInv s) (h : step s a = some s') :
    SysInv s' := by
  cases stepped h with
  | begun procedure issuer subject correlation_id =>
    obtain ⟨hstart, hout⟩ :=
      txInv_start hs.consistent procedure issuer subject correlation_id
    have hget : ∀ (i : ℕ) t,
        (s.txs ++ [Tx.start procedure issuer subject correlation_id])[i]? = some t →
          s.txs[i]? = some t ∨
            i = s.txs.length ∧ t = .start procedure issuer subject correlation_id := by
      intro i t hi
      rw [List.getElem?_append] at hi
      split_ifs at hi with hlt
      · exact .inl hi
      · rw [List.getElem?_singleton] at hi
        split_ifs at hi with hfirst
        exact .inr ⟨by omega, (Option.some.inj hi).symm⟩
    refine ⟨hs.consistent, fun i t hi => ?_, fun i j t u hi hj htin huin => ?_⟩
    · rcases hget i t hi with hi | ⟨-, rfl⟩
      · exact hs.txs i t hi
      · exact hstart
    · rcases hget i t hi with hi | ⟨-, rfl⟩
      · rcases hget j u hj with hj | ⟨-, rfl⟩
        · exact hs.alone i j t u hi hj htin huin
        · rw [hout] at huin
          cases huin
      · rw [hout] at htin
        cases htin
  | advanced htx hadvance =>
    have hadvanced := advanced_next hs htx hadvance
    exact sysInv_set hs htx hadvanced.consistent hadvanced.inv hadvanced.alone hadvanced.quiet
  | failed htx hrunning =>
    exact sysInv_set hs htx hs.consistent (txInv_finish hs.consistent _ _) nofun (.inl rfl)

lemma sysInv_reachable {db : Db} (hdb : Consistent db) {s : Sys}
    (h : (system db).Reachable System.anyStep s) : SysInv s := by
  refine h.invariant (P := SysInv) ?_ fun s a s' out hs _ hstep => ?_
  · exact ⟨hdb, fun _ _ hnone => (by cases hnone), fun _ _ _ _ hnone => (by cases hnone)⟩
  obtain ⟨t, ht, heq⟩ := Option.map_eq_some_iff.mp hstep
  cases heq
  exact hs.step ht

/-- Only a committed grant or revocation changes the roles or the events. -/
lemma unchanged_or_committed {s s' : Sys} {a : Action} (hs : SysInv s) (h : step s a = some s') :
    (s'.db.roles = s.db.roles ∧ s'.db.events = s.db.events) ∨
      ∃ (i : ℕ) (fresh : String) (tx : Tx) (outcome : Outcome), a = .next i fresh ∧
        s.txs[i]? = some tx ∧ tx.phase = .commit outcome ∧
          s'.txs[i]? = some (tx.finish outcome) ∧ (outcome = .granted ∨ outcome = .revoked) := by
  cases stepped h with
  | begun | failed => exact .inl ⟨rfl, rfl⟩
  | @advanced i fresh tx tx' db' htx hadvance =>
    have hadvanced := advanced_next hs htx hadvance
    have hlt : i < s.txs.length := (List.getElem?_eq_some_iff.mp htx).1
    have hcommitted : ∀ outcome, tx.phase = .commit outcome →
        (s.txs.set i tx')[i]? = some (tx.finish outcome) := by
      intro outcome hphase
      rw [List.getElem?_set_self hlt]
      unfold advance at hadvance
      rw [hphase] at hadvance
      cases hadvance
      rfl
    by_cases hgranted : tx.phase = .commit .granted
    · exact .inr ⟨i, fresh, tx, .granted, rfl, htx, hgranted, hcommitted _ hgranted, .inl rfl⟩
    · by_cases hrevoked : tx.phase = .commit .revoked
      · exact .inr ⟨i, fresh, tx, .revoked, rfl, htx, hrevoked, hcommitted _ hrevoked, .inr rfl⟩
      · exact .inl (hadvanced.unchanged hgranted hrevoked)

/-- In every interleaving an active administrator role is an account's only one, no account has an
active role twice, an assignment has one event and its revocation one more, and nothing but a grant
or a revocation touches roles or events. -/
theorem role_provisioning (db : Db) (hdb : Consistent db) (s : Sys)
    (h : (system db).Reachable System.anyStep s) :
    (∀ a ∈ s.db.roles, ∀ b ∈ s.db.roles, a.active = true → b.active = true →
      a.principal_reference_id = b.principal_reference_id →
        a.role = .ADMINISTRATOR ∨ a.role = b.role → a = b) ∧
      (∀ a ∈ s.db.roles, naming s.db.events "ROLE_ASSIGNED" a.role_assignment_id = 1 ∧
        naming s.db.events "ROLE_REVOKED" a.role_assignment_id = if a.active then 0 else 1) ∧
      (∀ id, id ∉ s.db.roles.map RoleAssignment.role_assignment_id →
        naming s.db.events "ROLE_ASSIGNED" id = 0 ∧ naming s.db.events "ROLE_REVOKED" id = 0) ∧
      ∀ a s', step s a = some s' →
        (s'.db.roles = s.db.roles ∧ s'.db.events = s.db.events) ∨
          ∃ (i : ℕ) (fresh : String) (tx : Tx) (outcome : Outcome), a = .next i fresh ∧
            s.txs[i]? = some tx ∧ tx.phase = .commit outcome ∧
              s'.txs[i]? = some (tx.finish outcome) ∧ (outcome = .granted ∨ outcome = .revoked) := by
  have hs := sysInv_reachable hdb h
  have hinactive : ∀ a ∈ s.db.roles, a.role_assignment_id ∈ (s.db.roles.filter (!·.active)).map
      RoleAssignment.role_assignment_id ↔ a.active = false := by
    intro a ha
    constructor
    · intro hmem
      obtain ⟨b, hb, hsame⟩ := List.mem_map.mp hmem
      obtain ⟨hb, hbactive⟩ := List.mem_filter.mp hb
      cases List.inj_on_of_nodup_map hs.consistent.ids ha hb hsame.symm
      rwa [Bool.not_eq_true'] at hbactive
    · intro hfalse
      exact List.mem_map.mpr ⟨a, List.mem_filter.mpr ⟨ha, by rw [hfalse]; rfl⟩, rfl⟩
  refine ⟨fun a ha b hb hacta hactb hprin hroles => ?_, fun a ha => ⟨?_, ?_⟩, fun id hid => ⟨?_, ?_⟩,
    fun a s' hstep => unchanged_or_committed hs hstep⟩
  · refine hs.consistent.single a ha b hb hacta hactb hprin ?_
    rcases hroles with hadmin | hsame
    · rw [hadmin, hs.consistent.separate a ha b hb hacta hactb hprin hadmin]
    · exact hsame
  · rw [hs.consistent.assigned, if_pos (List.mem_map_of_mem ha)]
  · rw [hs.consistent.revoked]
    simp only [hinactive a ha]
    cases a.active <;> rfl
  · rw [hs.consistent.assigned, if_neg hid]
  · rw [hs.consistent.revoked, if_neg]
    exact fun hmem => hid ((List.filter_sublist.map _).subset hmem)

lemma consistent_empty : Consistent ⟨[], [], []⟩ :=
  ⟨nofun, List.nodup_nil, nofun, nofun, fun _ => rfl, fun _ => rfl⟩

/-- Two grants meet at the provisioner's row and one of them is lost; a third one finds the
administrator. -/
def twoGrants : List Action :=
  [.begin .grant_administrator "issuer" "33333333-3333-4333-8333-333333333333"
     "55555555-5555-4555-8555-555555555555",
   .begin .grant_user "issuer" "33333333-3333-4333-8333-333333333333"
     "66666666-6666-4666-8666-666666666666",
   .next 0 "", .next 1 "", .next 0 "11111111-1111-4111-8111-111111111111", .next 0 "",
   .next 0 "22222222-2222-4222-8222-222222222222", .next 0 "",
   .next 0 "44444444-4444-4444-8444-444444444444", .next 0 "", .next 0 "", .next 0 "",
   .next 1 "77777777-7777-4777-8777-777777777777",
   .begin .grant_user "issuer" "33333333-3333-4333-8333-333333333333"
     "88888888-8888-4888-8888-888888888888",
   .next 2 "", .next 2 "", .next 2 ""]

def granted : Sys :=
  ((system ⟨[], [], []⟩).exec ⟨⟨[], [], []⟩, []⟩ twoGrants).getD ⟨⟨[], [], []⟩, []⟩

theorem role_provisioning_twoGrants :
    granted.txs.map (·.phase) = [.ended .granted, .ended .failed, .ended .refused] ∧
      granted.db.roles.map (·.role) = [.ADMINISTRATOR] ∧
        ∀ a ∈ granted.db.roles,
          naming granted.db.events "ROLE_ASSIGNED" a.role_assignment_id = 1 := by
  have hrun : (system ⟨[], [], []⟩).exec ⟨⟨[], [], []⟩, []⟩ twoGrants = some granted := by
    have hsome : ((system ⟨[], [], []⟩).exec ⟨⟨[], [], []⟩, []⟩ twoGrants).isSome = true := by
      decide +kernel
    rw [granted, ← Option.get_eq_getD (h := hsome), Option.some_get]
  have hprovisioned := role_provisioning ⟨[], [], []⟩ consistent_empty granted
    (System.steps_of_exec (fun _ _ _ => trivial) hrun)
  exact ⟨by decide +kernel, by decide +kernel, fun a ha => (hprovisioned.2.1 a ha).1⟩

end TrustLens.Backend.Provisioning
