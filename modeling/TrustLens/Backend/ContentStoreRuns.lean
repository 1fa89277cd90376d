import Mathlib.Logic.Relation
import TrustLens.Backend.ContentStoreCalls

/-!
# Runs of the content store

Whatever fails, is short or crashes, and whatever is altered behind the store's back, a file under the
name of an object is whole unless it was altered itself, and what is read under a name was written
under it.
-/

namespace TrustLens.Backend.ContentStore

open Interrupted (Triple)

/-- The disk, and the calls of `put` with their endings, the last first. -/
structure Store where
  disk : Disk
  ended : List (Job × Ending Fault StoredObject)

def Store.jobs (s : Store) : List Job := s.ended.map Prod.fst

section Store

variable (encrypt : Sealed → List UInt8) (kek : List UInt8) (sha256 : List UInt8 → String) (nesting : ℕ)

/-- A call with any outcomes, an alteration of a file, or a crash. -/
inductive Step : Store → Store → Prop where
  | put (s : Store) (job : Job) (outcomes : List Outcome) (fresh : job.locator ∉ s.jobs.map Job.locator) :
    Step s ⟨(put encrypt kek sha256 job outcomes s.disk).2.1,
      (job, (put encrypt kek sha256 job outcomes s.disk).1) :: s.ended⟩
  | get (s : Store) (locator : String) (outcomes : List Outcome) :
    Step s { s with
      disk := (get encrypt kek nesting (logOf kek s.jobs) locator outcomes s.disk).2.1 }
  | verify (s : Store) (locator expected_sha256 : String) (expected_length : ℕ) (outcomes : List Outcome) :
    Step s { s with
      disk := (verify encrypt kek sha256 nesting (logOf kek s.jobs) locator expected_sha256 expected_length
        outcomes s.disk).2.1 }
  | alter (s : Store) (name : String) (file : Option File) :
    Step s { s with disk := s.disk.set name ⟨file, true⟩ }
  | crash (s : Store) (disk : Disk) (h : Crash s.disk disk) : Step s { s with disk := disk }

/-- No object was written, and no file passes for one. -/
def Initial (s : Store) : Prop :=
  s.ended = [] ∧ ∀ locator, ∀ c ∈ s.disk.candidates (finalName locator), c.altered = true ∨ c.file = none

/-- What a name may stand for, now or after a crash. -/
structure Inv (s : Store) : Prop where
  distinct : (s.jobs.map Job.locator).Nodup
  complete : ∀ locator, ∀ c ∈ s.disk.candidates (finalName locator), c.altered = true ∨ c.file = none ∨
    ∃ job ∈ s.jobs, job.locator = locator ∧ c = whole (envelopeBytes encrypt kek job)
  durable : ∀ job stored, (job, .returned stored) ∈ s.ended → stored = storedObject sha256 job ∧
    ∀ c ∈ s.disk.candidates (finalName job.locator),
      c.altered = true ∨ c = whole (envelopeBytes encrypt kek job)

variable {encrypt kek sha256 nesting} {s s' : Store}

lemma Inv.of_initial (h : Initial s) : Inv encrypt kek sha256 s where
  distinct := by
    rw [Store.jobs, h.1]
    exact List.nodup_nil
  complete locator c hc := (h.2 locator c hc).imp_right .inl
  durable job stored hjob := by
    rw [h.1] at hjob
    cases hjob

/-- Where what a name may stand for is what it did before, survived a crash or was altered. -/
lemma Inv.disk {d : Disk} (h : Inv encrypt kek sha256 s)
    (hd : ∀ locator, ∀ c ∈ d.candidates (finalName locator), c.altered = true ∨
      ∃ c₀ ∈ s.disk.candidates (finalName locator), c₀ = c ∨ Survives c₀ c) :
    Inv encrypt kek sha256 { s with disk := d } := by
  have hwhole : ∀ {content : List UInt8} {c : Entry}, whole content = c ∨ Survives (whole content) c →
      c = whole content := by
    rintro content ⟨file, altered⟩ (h | ⟨haltered, ⟨content', synced⟩, hg, hsynced, hcontent⟩)
    · exact h.symm
    · dsimp only at haltered hg hsynced hcontent
      rw [hg, haltered, hsynced, hcontent rfl]
      rfl
  refine ⟨h.distinct, fun locator c hc => ?_, fun job stored hjob => ?_⟩
  · rcases hd locator c hc with haltered | ⟨c₀, hc₀, hsurvives⟩
    · exact .inl haltered
    · rcases h.complete locator c₀ hc₀ with haltered | hnone | ⟨job, hjob, hlocator, rfl⟩
      · rcases hsurvives with rfl | hsurvives
        · exact .inl haltered
        · exact .inl (hsurvives.1.trans haltered)
      · rcases hsurvives with rfl | ⟨-, hfile⟩
        · exact .inr (.inl hnone)
        · rw [hnone] at hfile
          exact .inr (.inl hfile)
      · exact .inr (.inr ⟨job, hjob, hlocator, hwhole hsurvives⟩)
  · obtain ⟨hstored, hcandidates⟩ := h.durable job stored hjob
    refine ⟨hstored, fun c hc => ?_⟩
    rcases hd job.locator c hc with haltered | ⟨c₀, hc₀, hsurvives⟩
    · exact .inl haltered
    · rcases hcandidates c₀ hc₀ with haltered | rfl
      · rcases hsurvives with rfl | hsurvives
        · exact .inl haltered
        · exact .inl (hsurvives.1.trans haltered)
      · exact .inr (hwhole hsurvives)

variable (encrypt kek sha256) in
/-- What one call of `put` leaves on the disk. -/
lemma put_spec (job : Job) (outcomes : List Outcome) (d₀ : Disk) :
    Kept (tempName job.locator job.suffix) (finalName job.locator) (envelopeBytes encrypt kek job) d₀
      (put encrypt kek sha256 job outcomes d₀).2.1 ∧
    ∀ stored, (put encrypt kek sha256 job outcomes d₀).1 = .returned stored →
      stored = storedObject sha256 job ∧ (put encrypt kek sha256 job outcomes d₀).2.1.candidates
        (finalName job.locator) = [whole (envelopeBytes encrypt kek job)] := by
  have hrun := triple_put encrypt kek sha256 job d₀ outcomes d₀ rfl
  generalize put encrypt kek sha256 job outcomes d₀ = result at hrun
  obtain ⟨ending, d, rest⟩ := result
  cases ending with
  | returned stored =>
    obtain ⟨hstored, hkept, hentry, hearlier⟩ := hrun
    refine ⟨hkept, fun stored' h => ?_⟩
    obtain rfl := Ending.returned.inj h
    exact ⟨hstored, by rw [Disk.candidates, hentry, hearlier]⟩
  | raised e =>
    refine ⟨hrun, fun stored h => ?_⟩
    cases h
  | crashed =>
    refine ⟨hrun, fun stored h => ?_⟩
    cases h

/-- What the name of another object may stand for stays among what it did. -/
lemma Kept.candidates {temp final : String} {content : List UInt8} {d₀ d : Disk} (h : Kept temp final content d₀ d)
    {name : String} (htemp : name ≠ temp) (hfinal : name ≠ final) :
    ∀ c ∈ d.candidates name, c ∈ d₀.candidates name := by
  obtain ⟨hentry, hearlier⟩ := h.others name htemp hfinal
  intro c hc
  rcases List.mem_cons.mp hc with rfl | hc
  · rw [hentry]
    exact List.mem_cons_self
  · exact List.mem_cons_of_mem _ (hearlier c hc)

lemma Inv.put (h : Inv encrypt kek sha256 s) {job : Job} (fresh : job.locator ∉ s.jobs.map Job.locator)
    (outcomes : List Outcome) :
    Inv encrypt kek sha256 ⟨(put encrypt kek sha256 job outcomes s.disk).2.1,
      (job, (ContentStore.put encrypt kek sha256 job outcomes s.disk).1) :: s.ended⟩ := by
  obtain ⟨hkept, hreturned⟩ := put_spec encrypt kek sha256 job outcomes s.disk
  generalize ContentStore.put encrypt kek sha256 job outcomes s.disk = result at hkept hreturned
  obtain ⟨ending, d, rest⟩ := result
  dsimp only at hkept hreturned ⊢
  have hother : ∀ locator, locator ≠ job.locator → ∀ c ∈ d.candidates (finalName locator),
      c ∈ s.disk.candidates (finalName locator) := fun locator hne =>
    hkept.candidates (finalName_ne_tempName _ _ _) (finalName_injective.ne hne)
  refine ⟨List.nodup_cons.mpr ⟨fresh, h.distinct⟩, fun locator c hc => ?_, fun job' stored hjob => ?_⟩
  · have hold : c ∈ s.disk.candidates (finalName locator) → c.altered = true ∨ c.file = none ∨
        ∃ job' ∈ job :: s.jobs, job'.locator = locator ∧ c = whole (envelopeBytes encrypt kek job') :=
      fun hc => (h.complete locator c hc).imp_right (.imp_right fun ⟨job', hjob', hsame⟩ =>
        ⟨job', List.mem_cons_of_mem _ hjob', hsame⟩)
    by_cases hlocator : locator = job.locator
    · subst hlocator
      rcases List.mem_cons.mp hc with rfl | hc
      · rcases hkept.entry with hentry | hentry
        · exact hold (by rw [hentry]; exact List.mem_cons_self)
        · exact .inr (.inr ⟨job, List.mem_cons_self, rfl, hentry⟩)
      · exact hold (hkept.earlier c hc)
    · exact hold (hother locator hlocator c hc)
  · rcases List.mem_cons.mp hjob with heq | hjob
    · obtain ⟨rfl, rfl⟩ := Prod.mk.inj heq
      obtain ⟨hstored, hcandidates⟩ := hreturned stored rfl
      refine ⟨hstored, fun c hc => .inr ?_⟩
      rw [hcandidates] at hc
      exact List.mem_singleton.mp hc
    · have hmem : job' ∈ s.jobs := List.mem_map_of_mem (f := Prod.fst) hjob
      have hne : job'.locator ≠ job.locator := fun heq => fresh (heq ▸ List.mem_map_of_mem hmem)
      obtain ⟨hstored, hcandidates⟩ := h.durable job' stored hjob
      exact ⟨hstored, fun c hc => hcandidates c (hother _ hne c hc)⟩

/-- A call that keeps the disk keeps the invariant. -/
lemma Inv.of_still (h : Inv encrypt kek sha256 s) {d : Disk} (hd : d = s.disk) :
    Inv encrypt kek sha256 { s with disk := d } := by
  subst hd
  exact h

theorem Inv.step (h : Inv encrypt kek sha256 s) (hstep : Step encrypt kek sha256 nesting s s') :
    Inv encrypt kek sha256 s' := by
  cases hstep with
  | put job outcomes fresh => exact h.put fresh outcomes
  | get locator outcomes =>
    exact h.of_still (disk_of_still (triple_get s.jobs nesting s.disk locator) (fun _ _ h => h.1)
      (fun _ _ h => h.1) outcomes)
  | verify locator expected_sha256 expected_length outcomes =>
    exact h.of_still (disk_of_still (triple_verify sha256 expected_sha256 expected_length s.jobs nesting
      s.disk locator) (fun _ _ h => h.1) (fun _ _ h => h.1) outcomes)
  | alter name file =>
    refine h.disk fun locator c hc => ?_
    by_cases hname : finalName locator = name
    · subst hname
      rw [Disk.candidates, s.disk.entries_set, s.disk.earlier_set] at hc
      rcases List.mem_cons.mp hc with rfl | hc
      · exact .inl rfl
      · exact .inr ⟨c, hc, .inl rfl⟩
    · rw [Disk.candidates, s.disk.entries_set_of_ne _ hname, s.disk.earlier_set_of_ne _ hname] at hc
      exact .inr ⟨c, hc, .inl rfl⟩
  | crash d hcrash =>
    refine h.disk fun locator c hc => ?_
    rw [Disk.candidates, hcrash.2] at hc
    obtain rfl := List.mem_singleton.mp hc
    obtain ⟨c₀, hc₀, hsurvives⟩ := hcrash.1 (finalName locator)
    exact .inr ⟨c₀, hc₀, .inr hsurvives⟩

theorem inv_reachable {s₀ : Store} (hinit : Initial s₀)
    (h : Relation.ReflTransGen (Step encrypt kek sha256 nesting) s₀ s) : Inv encrypt kek sha256 s := by
  induction h with
  | refl => exact .of_initial hinit
  | tail _ hstep ih => exact ih.step hstep

/-- In every run, a file that was not altered is the whole envelope of an object, what `put` returned
describes the data and is read back as them, what it did not return is nowhere or whole, and nobody was
given its name. A read returns what was written under its name or raises one of the two errors, unless
its file nests deeper than the interpreter reads. -/
theorem store_atomic_authentic (hnesting : 1 ≤ nesting) (hkek : kek.length = 32) {s₀ : Store}
    (hinit : Initial s₀) (h : Relation.ReflTransGen (Step encrypt kek sha256 nesting) s₀ s) :
    (∀ locator f, s.disk.entries (finalName locator) = ⟨some f, false⟩ →
      ∃ job ∈ s.jobs, job.locator = locator ∧ f.content = envelopeBytes encrypt kek job) ∧
    (∀ job stored, (job, .returned stored) ∈ s.ended → stored = storedObject sha256 job ∧
      ((s.disk.entries (finalName job.locator)).altered = false → ∀ outcomes,
        get encrypt kek nesting (logOf kek s.jobs) stored.locator (.done :: outcomes) s.disk =
          (.returned job.data, s.disk, outcomes))) ∧
    (∀ job ending, (job, ending) ∈ s.ended → (∀ stored, ending ≠ .returned stored) →
      (∀ job' stored, (job', .returned stored) ∈ s.ended → stored.locator ≠ job.locator) ∧
      ∀ f, s.disk.entries (finalName job.locator) = ⟨some f, false⟩ →
        f.content = envelopeBytes encrypt kek job) ∧
    ∀ locator, ((ReadsOrRefuses s.disk (get encrypt kek nesting (logOf kek s.jobs) locator)
        (WrittenUnder s.jobs locator) ∧
      ∀ expected_sha256 expected_length, ReadsOrRefuses s.disk
        (verify encrypt kek sha256 nesting (logOf kek s.jobs) locator expected_sha256 expected_length)
        fun _ => Verified sha256 expected_sha256 expected_length s.jobs locator) ↔
          ¬TooDeep nesting s.disk locator) := by
  have hinv := inv_reachable hinit h
  have hwhole : ∀ locator f, s.disk.entries (finalName locator) = ⟨some f, false⟩ →
      ∃ job ∈ s.jobs, job.locator = locator ∧ f.content = envelopeBytes encrypt kek job := by
    intro locator f hentry
    rcases hinv.complete locator _ List.mem_cons_self with haltered | hnone | ⟨job, hjob, hlocator, hc⟩
    · rw [hentry] at haltered
      cases haltered
    · rw [hentry] at hnone
      cases hnone
    · rw [hentry] at hc
      obtain rfl := Option.some.inj (congrArg Entry.file hc)
      exact ⟨job, hjob, hlocator, rfl⟩
  have hpair : ∀ p ∈ s.ended, ∀ p' ∈ s.ended, p.1.locator = p'.1.locator → p = p' := by
    have hnodup : (s.ended.map fun p => p.1.locator).Nodup := by
      have hdistinct := hinv.distinct
      rwa [Store.jobs, List.map_map] at hdistinct
    exact fun p hp p' hp' heq => List.inj_on_of_nodup_map hnodup hp hp' heq
  refine ⟨hwhole, fun job stored hjob => ?_, fun job ending hjob hending => ⟨fun job' stored hjob' heq => ?_, ?_⟩,
    fun locator => ⟨fun hreads => (readsOrRefuses_get_iff s.jobs nesting s.disk locator).mp hreads.1,
      fun hdeep => ⟨readsOrRefuses_get s.jobs hdeep, fun expected_sha256 expected_length =>
        readsOrRefuses_verify sha256 expected_sha256 expected_length s.jobs hdeep⟩⟩⟩
  · obtain ⟨rfl, hcandidates⟩ := hinv.durable job stored hjob
    refine ⟨rfl, fun haltered outcomes => ?_⟩
    have hentry := (hcandidates _ List.mem_cons_self).resolve_left (by rw [haltered]; decide)
    exact get_of_whole hnesting hkek hinv.distinct (List.mem_map_of_mem hjob) hentry outcomes
  · obtain ⟨rfl, -⟩ := hinv.durable job' stored hjob'
    exact hending _ (Prod.mk.inj (hpair _ hjob _ hjob' heq.symm)).2
  · intro f hentry
    obtain ⟨job', hjob', hlocator, hcontent⟩ := hwhole _ f hentry
    obtain ⟨⟨job', ending'⟩, hmem, rfl⟩ := List.mem_map.mp hjob'
    rw [hcontent, (Prod.mk.inj (hpair _ hmem _ hjob hlocator)).1]

end Store

/-! ### A store -/

/-- A cipher that adds a tag of zeros. -/
def taggedText (m : Sealed) : List UInt8 := m.plain ++ List.replicate 16 0

def sampleKek : List UInt8 := List.replicate 32 7

def emptyStore : Store := ⟨⟨fun _ => ⟨none, false⟩, fun _ => []⟩, []⟩

lemma initial_emptyStore : Initial emptyStore := by
  refine ⟨rfl, fun locator c hc => .inr ?_⟩
  obtain rfl := List.mem_singleton.mp hc
  rfl

def sampleJob : Job where
  locator := "0123456789abcdef0123456789abcdef"
  dataKey := List.replicate 32 1
  contentNonce := List.replicate 12 2
  wrapNonce := List.replicate 12 3
  suffix := "0011223344556677"
  data := [104, 105]
  locator_hex := by decide
  dataKey_length := rfl
  contentNonce_length := rfl
  wrapNonce_length := rfl

/-- The store after one call of `put`. -/
def sampleStore : Store :=
  ⟨(put taggedText sampleKek (fun _ => "") sampleJob (List.replicate 16 .done) emptyStore.disk).2.1,
    [(sampleJob, (put taggedText sampleKek (fun _ => "") sampleJob (List.replicate 16 .done) emptyStore.disk).1)]⟩

lemma reachable_sampleStore :
    Relation.ReflTransGen (Step taggedText sampleKek (fun _ => "") 1000) emptyStore sampleStore :=
  .single (.put emptyStore sampleJob (List.replicate 16 .done) nofun)

theorem store_atomic_authentic_sample :
    get taggedText sampleKek 1000 (logOf sampleKek sampleStore.jobs) sampleJob.locator [.done] sampleStore.disk =
      (.returned [104, 105], sampleStore.disk, []) := by
  have hreturned : (put taggedText sampleKek (fun _ => "") sampleJob (List.replicate 16 .done)
      emptyStore.disk).1 = .returned (storedObject (fun _ => "") sampleJob) := by decide +kernel
  have hended : (sampleJob, Ending.returned (storedObject (fun _ => "") sampleJob)) ∈ sampleStore.ended := by
    rw [sampleStore, hreturned]
    exact List.mem_singleton_self _
  have haltered : (sampleStore.disk.entries (finalName sampleJob.locator)).altered = false := by
    decide +kernel
  obtain ⟨-, hread, -⟩ := store_atomic_authentic (by decide) rfl initial_emptyStore reachable_sampleStore
  exact (hread _ _ hended).2 haltered []

/-- A file of brackets alone. -/
def bracketFile (n : ℕ) : File := ⟨(List.replicate n '[').flatMap String.utf8EncodeChar, true⟩

lemma loadsBytes_bracketFile (nesting : ℕ) :
    Json.loadsBytes nesting (bracketFile (nesting + 1)).content = .error .RecursionError := by
  have hascii : Json.Ascii (List.replicate (nesting + 1) '[') := fun c hc => by
    rw [List.eq_of_mem_replicate hc]
    decide
  have hdeep := Json.loadsWithin_brackets nesting []
  rw [List.append_nil] at hdeep
  rw [bracketFile, Json.loadsBytes, Json.decodeBytes_ascii hascii]
  exact hdeep

/-- An empty store where a file of brackets took the name of an object. -/
def bracketStore (nesting : ℕ) : Store where
  disk := emptyStore.disk.set (finalName sampleJob.locator) ⟨some (bracketFile (nesting + 1)), true⟩
  ended := []

lemma tooDeep_bracketStore (nesting : ℕ) : TooDeep nesting (bracketStore nesting).disk sampleJob.locator := by
  refine ⟨finalName sampleJob.locator, bracketFile (nesting + 1), path_of_job sampleJob, ?_,
    loadsBytes_bracketFile nesting⟩
  rw [bracketStore, Disk.entries_set]

/-- A file that nests too deeply aborts a read with an exception that is none of the store. -/
theorem deep_file_escapes :
    Relation.ReflTransGen (Step taggedText sampleKek (fun _ => "") 1000) emptyStore (bracketStore 1000) ∧
    (get taggedText sampleKek 1000 (logOf sampleKek (bracketStore 1000).jobs) sampleJob.locator [.done]
      (bracketStore 1000).disk).1 = .raised (.python .RecursionError) :=
  ⟨.single (.alter emptyStore _ _), get_of_tooDeep (tooDeep_bracketStore 1000) _ []⟩

end TrustLens.Backend.ContentStore
