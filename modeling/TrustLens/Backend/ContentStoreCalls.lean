import TrustLens.Backend.ContentStore

/-!
# The calls of the content store

What one call of `put` may leave on the disk, and what one call of `get` may return, whichever calls of
the system fail, are short or crash.
-/

namespace TrustLens.Backend.ContentStore

open AuditChain (hexGroup)
open Cases (Attempt member orRaise)
open Interrupted (Triple)

/-! ### What writing does to the disk -/

/-- A file that was written as a whole, made durable and left alone. -/
def whole (content : List UInt8) : Entry := ⟨some ⟨content, true⟩, false⟩

section Writing

variable {temp final : String} {content : List UInt8} {d₀ d : Disk}

/-- Nothing but the temporary name differs. -/
def Quiet (temp : String) (d₀ d : Disk) : Prop :=
  ∀ n, n ≠ temp → d.entries n = d₀.entries n ∧ d.earlier n = d₀.earlier n

/-- Nothing but the temporary and the final name differs, and the final one stands for what it did
or for the whole file. -/
structure Kept (temp final : String) (content : List UInt8) (d₀ d : Disk) : Prop where
  others : ∀ n, n ≠ temp → n ≠ final → d.entries n = d₀.entries n ∧ ∀ c ∈ d.earlier n, c ∈ d₀.earlier n
  entry : d.entries final = d₀.entries final ∨ d.entries final = whole content
  earlier : ∀ c ∈ d.earlier final, c ∈ d₀.candidates final

/-- The final name stands for the whole file. -/
def Published (temp final : String) (content : List UInt8) (d₀ d : Disk) : Prop :=
  Kept temp final content d₀ d ∧ d.entries final = whole content

/-- And no crash takes it away. -/
def Durable (temp final : String) (content : List UInt8) (d₀ d : Disk) : Prop :=
  Kept temp final content d₀ d ∧ d.entries final = whole content ∧ d.earlier final = []

/-- The temporary file holds these bytes. -/
def Holding (temp : String) (bytes : List UInt8) (d₀ d : Disk) : Prop :=
  Quiet temp d₀ d ∧ ∃ synced, d.entries temp = ⟨some ⟨bytes, synced⟩, false⟩

lemma Quiet.kept (hne : final ≠ temp) (h : Quiet temp d₀ d) : Kept temp final content d₀ d where
  others n hn _ := ⟨(h n hn).1, by rw [(h n hn).2]; exact fun c hc => hc⟩
  entry := .inl (h final hne).1
  earlier c hc := List.mem_cons_of_mem _ (by rwa [(h final hne).2] at hc)

lemma Quiet.set (h : Quiet temp d₀ d) (entry : Entry) : Quiet temp d₀ (d.set temp entry) := by
  intro n hn
  rw [d.entries_set_of_ne entry hn, d.earlier_set_of_ne entry hn]
  exact h n hn

lemma Quiet.edit (h : Quiet temp d₀ d) (f : File → File) : Quiet temp d₀ (d.edit temp f) := by
  intro n hn
  rw [d.entries_edit_of_ne f hn]
  exact h n hn

lemma Kept.set_temp (hne : final ≠ temp) (h : Kept temp final content d₀ d) (entry : Entry) :
    Kept temp final content d₀ (d.set temp entry) where
  others n hn hf := by
    rw [d.entries_set_of_ne entry hn, d.earlier_set_of_ne entry hn]
    exact h.others n hn hf
  entry := by
    rw [d.entries_set_of_ne entry hne]
    exact h.entry
  earlier := by
    rw [d.earlier_set_of_ne entry hne]
    exact h.earlier

/-- A call of the system, where each thing it may do is what the triple says. -/
lemma triple_os {α : Type} {effect : Disk → Except Fault (α × Disk)} {P C : Disk → Prop}
    {Q : α → Disk → Prop} {E : Fault → Disk → Prop} (hfail : ∀ d, P d → (∀ e, E e d) ∧ C d)
    (hdone : ∀ d a d', P d → effect d = .ok (a, d') → Q a d' ∧ C d') : Triple P (os effect) Q E C := by
  refine .call (fun d hd => (hfail d hd).2) fun outcome d hd => ?_
  obtain ⟨hE, hC⟩ := hfail d hd
  cases heffect : effect d with
  | error e => cases outcome <;> simp only [hE, hC]
  | ok r =>
    obtain ⟨hQ, hC'⟩ := hdone d r.1 r.2 hd heffect
    cases outcome <;> simp only [hE, hQ, hC']

/-- A call that changes nothing. -/
lemma triple_still {α : Type} {value : Disk → α} {P C : Disk → Prop} {Q : α → Disk → Prop}
    {E : Fault → Disk → Prop} (h : ∀ d, P d → Q (value d) d ∧ (∀ e, E e d) ∧ C d) :
    Triple P (os fun d => .ok (value d, d)) Q E C := by
  refine triple_os (fun d hd => (h d hd).2) fun d a d' hd heffect => ?_
  obtain ⟨rfl, rfl⟩ := Prod.mk.inj (Except.ok.inj heffect)
  exact ⟨(h d hd).1, (h d hd).2.2⟩

lemma triple_openExclusive (hne : final ≠ temp) : Triple (Quiet temp d₀) (openExclusive temp)
    (fun _ => Holding temp [] d₀) (fun _ => Kept temp final content d₀) (Kept temp final content d₀) := by
  refine triple_os (fun d hd => ⟨fun _ => hd.kept hne, hd.kept hne⟩) fun d a d' hd heffect => ?_
  split_ifs at heffect
  obtain ⟨-, rfl⟩ := Prod.mk.inj (Except.ok.inj heffect)
  exact ⟨⟨hd.set _, false, d.entries_set _⟩, (hd.set _).kept hne⟩

lemma triple_write (hne : final ≠ temp) (bytes data : List UInt8) :
    Triple (Holding temp bytes d₀) (write temp data)
      (fun n => Holding temp (bytes ++ data.take n) d₀) (fun _ => Kept temp final content d₀)
      (Kept temp final content d₀) := by
  refine .call (fun d hd => hd.1.kept hne) fun outcome d hd => ?_
  obtain ⟨hquiet, synced, hentry⟩ := hd
  have happend : ∀ more : List UInt8, Holding temp (bytes ++ more) d₀
      (d.edit temp fun f => ⟨f.content ++ more, false⟩) := fun more => by
    refine ⟨hquiet.edit _, false, ?_⟩
    rw [Disk.entries_edit, hentry]
    rfl
  cases outcome with
  | done =>
    change Holding temp (bytes ++ data.take data.length) d₀ _
    rw [List.take_length]
    exact happend data
  | short n =>
    have hmin : data.take (min n data.length) = data.take n := List.take_eq_take_min.symm
    change Holding temp (bytes ++ data.take (min n data.length)) d₀ _
    rw [hmin]
    exact happend (data.take n)
  | failed => exact hquiet.kept hne
  | crashed => exact (hquiet.edit _).kept hne

/-- The loop writes what is left, or fails. -/
lemma triple_writeLoop (hne : final ≠ temp) (steps : ℕ) (bytes data : List UInt8) (hsteps : data.length ≤ steps) :
    Triple (Holding temp bytes d₀) (writeLoop temp steps data)
      (fun _ => Holding temp (bytes ++ data) d₀) (fun _ => Kept temp final content d₀)
      (Kept temp final content d₀) := by
  induction steps generalizing bytes data with
  | zero =>
    obtain rfl := List.length_eq_zero_iff.mp (Nat.le_zero.mp hsteps)
    rw [List.append_nil]
    exact .pure fun d hd => hd
  | succ steps ih =>
    rw [writeLoop]
    by_cases hdata : data = []
    · rw [if_pos hdata, hdata, List.append_nil]
      exact .pure fun d hd => hd
    · rw [if_neg hdata]
      refine .bind (triple_write hne bytes data) fun written => ?_
      by_cases hwritten : written = 0
      · rw [if_pos hwritten]
        exact .throw fun d hd => hd.1.kept hne
      · rw [if_neg hwritten]
        have hrest := ih (bytes ++ data.take written) (data.drop written) (by
          rw [List.length_drop]
          omega)
        rwa [List.append_assoc, List.take_append_drop] at hrest

/-- The temporary file is written as a whole and made durable, or the call fails. -/
lemma triple_body (hne : final ≠ temp) :
    Triple (Holding temp [] d₀) (do _write_all temp content; fsync temp : Os Unit)
      (fun _ d => Quiet temp d₀ d ∧ d.entries temp = whole content)
      (fun _ => Kept temp final content d₀) (Kept temp final content d₀) := by
  refine .bind (triple_writeLoop hne content.length [] content le_rfl) fun _ => ?_
  refine triple_os (fun d hd => ⟨fun _ => hd.1.kept hne, hd.1.kept hne⟩) fun d a d' hd heffect => ?_
  obtain ⟨-, rfl⟩ := Prod.mk.inj (Except.ok.inj heffect)
  obtain ⟨hquiet, synced, hentry⟩ := hd
  refine ⟨⟨hquiet.edit _, ?_⟩, (hquiet.edit _).kept hne⟩
  rw [Disk.entries_edit, hentry]
  rfl

/-- The temporary file takes the final name. -/
lemma triple_replace (hne : final ≠ temp) :
    Triple (fun d => Quiet temp d₀ d ∧ d.entries temp = whole content) (replace temp final)
      (fun _ => Published temp final content d₀) (fun _ => Kept temp final content d₀)
      (Kept temp final content d₀) := by
  refine triple_os (fun d hd => ⟨fun _ => hd.1.kept hne, hd.1.kept hne⟩) fun d a d' hd heffect => ?_
  obtain ⟨hquiet, hentry⟩ := hd
  split_ifs at heffect
  obtain ⟨-, rfl⟩ := Prod.mk.inj (Except.ok.inj heffect)
  have hkept : Kept temp final content d₀ (d.set final (d.entries temp)) := by
    refine ⟨fun n hn hf => ?_, .inr ?_, fun c hc => ?_⟩
    · rw [d.entries_set_of_ne _ hf, d.earlier_set_of_ne _ hf]
      exact ⟨(hquiet n hn).1, by rw [(hquiet n hn).2]; exact fun c hc => hc⟩
    · rw [d.entries_set, hentry]
    · rw [d.earlier_set] at hc
      rwa [Disk.candidates, (hquiet final hne).1, (hquiet final hne).2] at hc
  have hlast := hkept.set_temp hne ⟨none, false⟩
  refine ⟨⟨hlast, ?_⟩, hlast⟩
  rw [Disk.entries_set_of_ne _ _ hne, d.entries_set, hentry]

/-- The directory is made durable. -/
lemma triple_fsyncDirectory :
    Triple (Published temp final content d₀) fsyncDirectory (fun _ => Durable temp final content d₀)
      (fun _ => Kept temp final content d₀) (Kept temp final content d₀) := by
  refine triple_os (fun d hd => ⟨fun _ => hd.1, hd.1⟩) fun d a d' hd heffect => ?_
  obtain ⟨-, rfl⟩ := Prod.mk.inj (Except.ok.inj heffect)
  have hkept : Kept temp final content d₀ { d with earlier := fun _ => [] } :=
    ⟨fun n hn hf => ⟨(hd.1.others n hn hf).1, nofun⟩, hd.1.entry, nofun⟩
  exact ⟨⟨hkept, hd.2, rfl⟩, hkept⟩

lemma triple_publish (hne : final ≠ temp) :
    Triple (Quiet temp d₀) (publish temp final content) (fun _ => Durable temp final content d₀)
      (fun _ => Kept temp final content d₀) (Kept temp final content d₀) := by
  have hclose : ∀ {P : Disk → Prop}, (∀ d, P d → Kept temp final content d₀ d) →
      Triple P close (fun _ => P) (fun _ => Kept temp final content d₀) (Kept temp final content d₀) :=
    fun hP => triple_still fun d hd => ⟨hd, fun _ => hP d hd, hP d hd⟩
  refine .bind (triple_openExclusive hne) fun _ => ?_
  refine .bind (.ensuring (triple_body hne) (fun _ => hclose fun d hd => hd.1.kept hne)
    fun _ => hclose fun d hd => hd) fun _ => ?_
  refine .bind (triple_still (Q := fun _ d => Quiet temp d₀ d ∧ d.entries temp = whole content)
    fun d hd => ⟨hd, fun _ => hd.1.kept hne, hd.1.kept hne⟩) fun found => ?_
  cases found with
  | true => exact .throw fun d hd => hd.1.kept hne
  | false =>
    refine .bind (triple_replace hne) fun _ => ?_
    refine .bind (triple_still (Q := fun _ => Published temp final content d₀)
      fun d hd => ⟨hd, fun _ => hd.1, hd.1⟩) fun _ => ?_
    exact .ensuring triple_fsyncDirectory (fun _ => hclose fun d hd => hd.1) fun _ => hclose fun d hd => hd

end Writing

/-! ### What `put` does -/

def finalName (locator : String) : String := locator ++ ".tle"

lemma finalName_injective : Function.Injective finalName := by
  intro a b h
  have hlists := congrArg String.toList h
  rw [finalName, finalName, String.toList_append, String.toList_append] at hlists
  exact String.toList_inj.mp (List.append_cancel_right hlists)

/-- The name of an object is none of a temporary file. -/
lemma finalName_ne_tempName (name locator suffix : String) : finalName name ≠ tempName locator suffix := by
  intro h
  have hlast := congrArg (fun s : String => s.toList.getLast?) h
  simp only [finalName, tempName, String.toList_append] at hlast
  rw [List.getLast?_append, List.getLast?_append] at hlast
  exact absurd (Option.some.inj hlast) (by decide)

section Store

variable (encrypt : Sealed → List UInt8) (kek : List UInt8) (sha256 : List UInt8 → String) (job : Job)

lemma path_of_job : _path job.locator = .ok (finalName job.locator) := by
  rw [_path, Schema.anchored, job.locator_hex]
  rfl

/-- What `put` returns. -/
def storedObject : StoredObject := ⟨job.locator, sha256 job.data, job.data.length, KEK_VERSION_REF⟩

/-- Where it returns, the whole object is durable under its name; wherever it ends, the name stands for
what it did or for the whole object. -/
theorem triple_put (d₀ : Disk) : Triple (· = d₀) (put encrypt kek sha256 job)
    (fun stored d => stored = storedObject sha256 job ∧
      Durable (tempName job.locator job.suffix) (finalName job.locator) (envelopeBytes encrypt kek job) d₀ d)
    (fun _ => Kept (tempName job.locator job.suffix) (finalName job.locator) (envelopeBytes encrypt kek job) d₀)
    (Kept (tempName job.locator job.suffix) (finalName job.locator) (envelopeBytes encrypt kek job) d₀) := by
  set temp := tempName job.locator job.suffix with htemp
  set final := finalName job.locator with hfinal
  set content := envelopeBytes encrypt kek job with hcontent
  have hne : final ≠ temp := finalName_ne_tempName _ _ _
  have hstart : Kept temp final content d₀ d₀ := Quiet.kept hne fun _ _ => ⟨rfl, rfl⟩
  have hdraw : ∀ {α : Type} (value : α), Triple (· = d₀) (draw value) (fun a d => a = value ∧ d = d₀)
      (fun _ => Kept temp final content d₀) (Kept temp final content d₀) := fun value =>
    triple_still fun d hd => ⟨⟨rfl, hd⟩, fun _ => hd ▸ hstart, hd ▸ hstart⟩
  have hunlink : ∀ {P : Disk → Prop}, (∀ d, P d → Kept temp final content d₀ d) →
      (∀ d, P d → P (d.set temp ⟨none, false⟩)) → Triple P (tryCatch (unlink temp) pass) (fun _ => P)
        (fun _ => Kept temp final content d₀) (Kept temp final content d₀) := by
    intro P hP hset
    have hcall : Triple P (unlink temp) (fun _ => P) (fun _ => P) (Kept temp final content d₀) := by
      refine triple_os (fun d hd => ⟨fun _ => hd, hP d hd⟩) fun d a d' hd heffect => ?_
      obtain ⟨-, rfl⟩ := Prod.mk.inj (Except.ok.inj heffect)
      exact ⟨hset d hd, hP _ (hset d hd)⟩
    refine .tryCatch hcall fun e => ?_
    rw [pass]
    split_ifs
    · exact .pure fun d hd => hd
    · exact .throw hP
  have hcatch : Triple (· = d₀) (tryCatch (publish temp final content) unavailable)
      (fun _ => Durable temp final content d₀) (fun _ => Kept temp final content d₀)
      (Kept temp final content d₀) := by
    refine .tryCatch ((triple_publish hne).mono ?_ (fun _ _ h => h) (fun _ _ h => h) fun _ h => h) fun e => ?_
    · rintro d rfl n -
      exact ⟨rfl, rfl⟩
    · rw [unavailable]
      split_ifs <;> exact .throw fun d hd => hd
  have hpath : Triple (· = d₀) (Interrupted.ofExcept (_path job.locator) : Os String)
      (fun a d => a = final ∧ d = d₀) (fun _ => Kept temp final content d₀) (Kept temp final content d₀) := by
    rw [path_of_job]
    exact .pure fun d hd => ⟨rfl, hd⟩
  refine .bind (hdraw job.locator) fun _ => .of_and ?_
  rintro rfl
  refine .bind (hdraw job.dataKey) fun _ => .of_and fun _ => ?_
  refine .bind (hdraw job.contentNonce) fun _ => .of_and fun _ => ?_
  refine .bind (hdraw job.wrapNonce) fun _ => .of_and fun _ => ?_
  refine .bind hpath fun _ => .of_and ?_
  rintro rfl
  refine .bind (hdraw job.suffix) fun _ => .of_and ?_
  rintro rfl
  refine .bind (.ensuring hcatch (fun _ => hunlink (fun d hd => hd.1) fun d hd => ?_)
    fun _ => hunlink (fun d hd => hd) fun d hd => hd.set_temp hne _) fun _ => .pure fun d hd => ⟨rfl, hd⟩
  refine ⟨hd.1.set_temp hne _, ?_, ?_⟩
  · rw [d.entries_set_of_ne _ hne, hd.2.1]
  · rw [d.earlier_set_of_ne _ hne, hd.2.2]

end Store

/-! ### What `get` reads -/

/-- The symbols of the one alphabet, as those of the other. -/
def toStandard (c : Char) : Char := if c = '-' then '+' else if c = '_' then '/' else c

lemma b64decode_encode (bytes : List UInt8) : b64decode (.str (b64encode bytes)) = .ok bytes := by
  have hvalue : ∀ c, Base64.value? (toStandard c) = Base64.value? c := by
    intro c
    rw [toStandard]
    split_ifs with h h
    · rw [h]
      decide
    · rw [h]
      decide
    · rfl
  have hpad : ∀ c, toStandard c = '=' ↔ c = '=' := by
    intro c
    rw [toStandard]
    split_ifs with h h
    · rw [h]
      decide
    · rw [h]
      decide
    · exact Iff.rfl
  have hkept : ∀ c ∈ (Base64.encode bytes).map toStandard, (c != '-' && c != '_') = true := by
    intro c hc
    obtain ⟨c, -, rfl⟩ := List.mem_map.mp hc
    rw [toStandard]
    split_ifs with h h'
    · rfl
    · rfl
    · simp [h, h']
  have hdecode := Base64.decode_symbols bytes
  rw [Base64.decode] at hdecode
  split_ifs at hdecode with hascii
  have hascii' : ((Base64.encode bytes).map toStandard).all (fun c => decide (c.toNat < 128)) = true := by
    rw [List.all_eq_true] at hascii ⊢
    intro c hc
    obtain ⟨c', hc', rfl⟩ := List.mem_map.mp hc
    rw [toStandard]
    split_ifs
    · decide
    · decide
    · exact hascii c' hc'
  have hread : Base64.decode ((Base64.encode bytes).map toStandard) = some bytes := by
    rw [Base64.decode, if_pos hascii', Base64.scan_map hvalue hpad]
    exact hdecode
  have hfilter := List.filter_eq_self.mpr hkept
  change orRaise .ValueError (Base64.decode
    ((String.ofList ((Base64.encode bytes).map toStandard)).toList.filter fun c => c != '-' && c != '_')) = _
  rw [String.toList_ofList, hfilter, hread]
  rfl

lemma utf8_injective : Function.Injective utf8 := by
  intro a b h
  have hdecode : ∀ s : String, (utf8 s).toByteArray.utf8Decode? = some s.toList.toArray := fun s =>
    List.utf8Decode?_utf8Encode
  have ha := hdecode a
  rw [h, hdecode b] at ha
  have hlists := congrArg Array.toList (Option.some.inj ha)
  exact (String.toList_inj.mp hlists).symm

/-- What wraps a key is told apart from what holds the data. -/
lemma wrap_ne_content (a b : String) : WRAP_AAD ++ utf8 a ≠ CONTENT_AAD ++ utf8 b := by
  intro h
  have hhead := congrArg (fun bytes : List UInt8 => bytes[10]?) h
  rw [List.getElem?_append_left (by decide), List.getElem?_append_left (by decide)] at hhead
  exact absurd hhead (by decide)

section Reading

variable (encrypt : Sealed → List UInt8) (kek : List UInt8)

/-- The messages that were sealed for the objects. -/
def logOf (jobs : List Job) : List Sealed := jobs.flatMap (messages kek)

variable {encrypt kek} {jobs : List Job}

lemma job_of_wrap {m : Sealed} {locator : String} (hm : m ∈ logOf kek jobs)
    (haad : m.aad = WRAP_AAD ++ utf8 locator) : ∃ job ∈ jobs, job.locator = locator ∧ m = wrapMessage kek job := by
  obtain ⟨job, hjob, hm⟩ := List.mem_flatMap.mp hm
  rcases List.mem_cons.mp hm with rfl | hm
  · exact ⟨job, hjob, utf8_injective (List.append_cancel_left haad), rfl⟩
  · obtain rfl := List.mem_singleton.mp hm
    exact absurd haad.symm (wrap_ne_content _ _)

lemma job_of_content {m : Sealed} {locator : String} (hm : m ∈ logOf kek jobs)
    (haad : m.aad = CONTENT_AAD ++ utf8 locator) : ∃ job ∈ jobs, job.locator = locator ∧ m = contentMessage job := by
  obtain ⟨job, hjob, hm⟩ := List.mem_flatMap.mp hm
  rcases List.mem_cons.mp hm with rfl | hm
  · exact absurd haad (wrap_ne_content _ _)
  · obtain rfl := List.mem_singleton.mp hm
    exact ⟨job, hjob, utf8_injective (List.append_cancel_left haad), rfl⟩

lemma opens_of_decrypt {log : List Sealed} {key nonce ciphertext aad plain : List UInt8}
    (h : decrypt encrypt log key nonce ciphertext aad = .ok plain) :
    Sealed.opens encrypt log key nonce ciphertext aad = some plain := by
  rw [decrypt] at h
  split_ifs at h
  split at h
  · cases h
  · rename_i hopens
    obtain rfl := Except.ok.inj h
    exact hopens

/-- The data of an object that was written under a name. -/
def WrittenUnder (jobs : List Job) (locator : String) (data : List UInt8) : Prop :=
  ∃ job ∈ jobs, job.locator = locator ∧ job.data = data

/-- What an envelope opens to was written under the name it is read by. -/
lemma writtenUnder_of_openEnvelope {locator : String} {j : Json} {data : List UInt8}
    (h : openEnvelope encrypt kek (logOf kek jobs) locator j = .ok data) : WrittenUnder jobs locator data := by
  obtain ⟨v, -, h⟩ := bind_ok h
  split_ifs at h
  obtain ⟨version, -, h⟩ := bind_ok h
  split_ifs at h
  obtain ⟨wn, -, h⟩ := bind_ok h
  obtain ⟨wrapNonce, -, h⟩ := bind_ok h
  obtain ⟨wk, -, h⟩ := bind_ok h
  obtain ⟨wrapped, -, h⟩ := bind_ok h
  obtain ⟨dataKey, -, h⟩ := bind_ok h
  obtain ⟨n, -, h⟩ := bind_ok h
  obtain ⟨nonce, -, h⟩ := bind_ok h
  obtain ⟨ct, -, h⟩ := bind_ok h
  obtain ⟨ciphertext, -, h⟩ := bind_ok h
  obtain ⟨m, hm, -, -, haad, rfl⟩ := Sealed.exists_of_opens (opens_of_decrypt h)
  obtain ⟨job, hjob, hlocator, rfl⟩ := job_of_content hm haad
  exact ⟨job, hjob, hlocator, rfl⟩

/-- The exceptions of an envelope that does not open. -/
def authentication : List Fault :=
  [.IntegrityFailure, .InvalidTag, .python .KeyError, .python .ValueError, .python .TypeError]

/-- What it raises is refused as unauthentic. -/
def Authentic {α : Type} (x : Except Fault α) : Prop := ∀ e, x = .error e → e ∈ authentication

lemma Authentic.bind {α β : Type} {x : Except Fault α} {f : α → Except Fault β} (hx : Authentic x)
    (hf : ∀ a, Authentic (f a)) : Authentic (x >>= f) := by
  intro e he
  rcases bind_error he with h | ⟨a, -, h⟩
  · exact hx e h
  · exact hf a e h

lemma Authentic.error {α : Type} {e : Fault} (h : e ∈ authentication) : Authentic (.error e : Except Fault α) :=
  fun _ he => Except.error.inj he ▸ h

lemma authentic_python {α : Type} {x : Attempt α} {es : List PyException} (h : Cases.RaisesOnly es x)
    (hes : ∀ e ∈ es, .python e ∈ authentication) : Authentic (python x) := by
  cases x with
  | ok a => exact nofun
  | error e => exact .error (hes e (h e rfl))

lemma authentic_member (j : Json) (key : String) : Authentic (python (member j key)) := by
  have hraises : Cases.RaisesOnly [.KeyError, .TypeError] (member j key) := by
    cases j with
    | obj entries => exact .orRaise (by decide) _
    | null | bool | int | float | str | arr =>
      intro e he
      rw [← Except.error.inj he]
      decide
  exact authentic_python hraises (by decide)

lemma authentic_b64decode (value : Json) : Authentic (python (b64decode value)) := by
  have hraises : Cases.RaisesOnly [.ValueError, .TypeError] (b64decode value) := by
    cases value with
    | str s => exact .orRaise (by decide) _
    | null | bool | int | float | arr | obj =>
      intro e he
      rw [← Except.error.inj he]
      decide
  exact authentic_python hraises (by decide)

lemma authentic_decrypt (log : List Sealed) (key nonce ciphertext aad : List UInt8) :
    Authentic (decrypt encrypt log key nonce ciphertext aad) := by
  unfold decrypt
  split
  · exact .error (by decide)
  · split
    · exact .error (by decide)
    · split
      · exact .error (by decide)
      · exact nofun

lemma authentic_openEnvelope (log : List Sealed) (locator : String) (j : Json) :
    Authentic (openEnvelope encrypt kek log locator j) := by
  unfold openEnvelope
  refine .bind (authentic_member j "v") fun v => ?_
  split
  · refine .bind (authentic_member j "kek") fun version => ?_
    split
    · exact .bind (authentic_member j "wn") fun _ => .bind (authentic_b64decode _) fun _ =>
        .bind (authentic_member j "wk") fun _ => .bind (authentic_b64decode _) fun _ =>
        .bind (authentic_decrypt _ _ _ _ _) fun _ =>
        .bind (authentic_member j "n") fun _ => .bind (authentic_b64decode _) fun _ =>
        .bind (authentic_member j "ct") fun _ => .bind (authentic_b64decode _) fun _ =>
        authentic_decrypt _ _ _ _ _
    · exact .error (by decide)
  · exact .error (by decide)

/-- The envelope of an object opens to its data, where no other object has its name. -/
lemma openEnvelope_envelope (hkek : kek.length = 32) (hnodup : (jobs.map Job.locator).Nodup) {job : Job}
    (hjob : job ∈ jobs) : openEnvelope encrypt kek (logOf kek jobs) job.locator
      (.obj (envelope encrypt kek job)) = .ok job.data := by
  have hsame : ∀ other ∈ jobs, other.locator = job.locator → other = job := fun other hother h =>
    List.inj_on_of_nodup_map hnodup hother hjob h
  have hwrap : decrypt encrypt (logOf kek jobs) kek job.wrapNonce (encrypt (wrapMessage kek job))
      (WRAP_AAD ++ utf8 job.locator) = .ok job.dataKey := by
    have hopens : Sealed.opens encrypt (logOf kek jobs) kek job.wrapNonce (encrypt (wrapMessage kek job))
        (WRAP_AAD ++ utf8 job.locator) = some job.dataKey :=
      Sealed.opens_of_unique (m := wrapMessage kek job) (List.mem_flatMap.mpr ⟨job, hjob, by simp [messages]⟩) fun m' hm' haad => by
        obtain ⟨other, hother, hlocator, rfl⟩ := job_of_wrap hm' haad
        rw [hsame other hother hlocator]
    have hnonce := job.wrapNonce_length
    rw [decrypt, if_neg (by rw [hkek]; decide), if_neg (by omega)]
    rw [hopens]
  have hcontent : decrypt encrypt (logOf kek jobs) job.dataKey job.contentNonce (encrypt (contentMessage job))
      (CONTENT_AAD ++ utf8 job.locator) = .ok job.data := by
    have hopens : Sealed.opens encrypt (logOf kek jobs) job.dataKey job.contentNonce
        (encrypt (contentMessage job)) (CONTENT_AAD ++ utf8 job.locator) = some job.data :=
      Sealed.opens_of_unique (m := contentMessage job) (List.mem_flatMap.mpr ⟨job, hjob, by simp [messages]⟩) fun m' hm' haad => by
        obtain ⟨other, hother, hlocator, rfl⟩ := job_of_content hm' haad
        rw [hsame other hother hlocator]
    have hnonce := job.contentNonce_length
    rw [decrypt, if_neg (by rw [job.dataKey_length]; decide), if_neg (by omega)]
    rw [hopens]
  have hmember : ∀ key j, Json.lookup key (envelope encrypt kek job) = some j →
      python (member (.obj (envelope encrypt kek job)) key) = .ok j := by
    intro key j h
    rw [member, h]
    rfl
  have hdecode : ∀ bytes, python (b64decode (.str (b64encode bytes))) = .ok bytes := by
    intro bytes
    rw [b64decode_encode]
    rfl
  unfold openEnvelope
  simp only [hmember "v" (.int 1) rfl, hmember "kek" (.str KEK_VERSION_REF) rfl,
    hmember "wn" (.str (b64encode job.wrapNonce)) rfl,
    hmember "wk" (.str (b64encode (encrypt (wrapMessage kek job)))) rfl,
    hmember "n" (.str (b64encode job.contentNonce)) rfl,
    hmember "ct" (.str (b64encode (encrypt (contentMessage job)))) rfl, hdecode, bind, Except.bind, hwrap,
    hcontent, isFormatVersion, beq_self_eq_true, if_true]

/-- The file of a name nests deeper than the interpreter reads. -/
def TooDeep (nesting : ℕ) (d : Disk) (locator : String) : Prop :=
  ∃ path f, _path locator = .ok path ∧ (d.entries path).file = some f ∧
    Json.loadsBytes nesting f.content = .error .RecursionError

/-- What the first part of a read raises. -/
def Unread (nesting : ℕ) (d : Disk) (locator : String) (e : Fault) : Prop :=
  e = .FileNotFoundError ∨ e ∈ [.OSError, .python .ValueError] ∨
    e = .python .RecursionError ∧ TooDeep nesting d locator

lemma triple_readBytes (nesting : ℕ) (d₀ : Disk) {locator path : String} (hpath : _path locator = .ok path) :
    Triple (· = d₀) (do
        let raw ← readBytes path
        Interrupted.ofExcept (python (Json.loadsBytes nesting raw)) : Os Json)
      (fun _ d => d = d₀) (fun e d => d = d₀ ∧ Unread nesting d₀ locator e) (· = d₀) := by
  have hread : Triple (· = d₀) (readBytes path)
      (fun raw d => (∃ f, (d₀.entries path).file = some f ∧ f.content = raw) ∧ d = d₀)
      (fun e d => d = d₀ ∧ Unread nesting d₀ locator e) (· = d₀) := by
    refine .call (fun d hd => hd) fun outcome d hd => ?_
    subst hd
    cases hfile : (d.entries path).file with
    | none => cases outcome <;> simp [hfile, Unread]
    | some f => cases outcome <;> simp [hfile, Unread]
  refine .bind hread fun raw => .of_and ?_
  rintro ⟨f, hf, rfl⟩
  refine .ofExcept (fun _ _ d hd => hd) fun e he d hd => ⟨hd, .inr ?_⟩
  rcases Json.loadsBytes_cases nesting f.content with ⟨j, h⟩ | h | h
  · rw [h] at he
    cases he
  · rw [h] at he
    rw [← Except.error.inj he]
    exact .inl (by decide)
  · rw [h] at he
    rw [← Except.error.inj he]
    exact .inr ⟨rfl, path, f, hpath, hf, h⟩

/-- A read returns what was written under the name, or raises one of the two errors of the store, or
is aborted by a file that is too deep; it leaves the disk as it is. -/
theorem triple_get (jobs : List Job) (nesting : ℕ) (d₀ : Disk) (locator : String) :
    Triple (· = d₀) (get encrypt kek nesting (logOf kek jobs) locator)
      (fun data d => d = d₀ ∧ WrittenUnder jobs locator data)
      (fun e d => d = d₀ ∧ ((e = .ContentStoreUnavailable ∨ e = .IntegrityFailure) ∨
        e = .python .RecursionError ∧ TooDeep nesting d₀ locator)) (· = d₀) := by
  rw [get]
  refine .bind (Q := fun path d => _path locator = .ok path ∧ d = d₀) ?_ fun path => .of_and fun hpath => ?_
  · refine .ofExcept (fun path hpath d hd => ⟨hpath, hd⟩) fun e he d hd => ⟨hd, .inl (.inl ?_)⟩
    rw [_path] at he
    split_ifs at he
    exact (Except.error.inj he).symm
  · refine .bind (.tryCatch (triple_readBytes nesting d₀ hpath) fun e => ?_) fun j => ?_
    · rw [unreadable]
      split_ifs with hmissing hcaught
      · exact .throw fun d hd => ⟨hd.1, .inl (.inl rfl)⟩
      · exact .throw fun d hd => ⟨hd.1, .inl (.inr rfl)⟩
      · exact .throw fun d hd => ⟨hd.1, .inr ((hd.2.resolve_left hmissing).resolve_left hcaught)⟩
    · have hopen : Triple (· = d₀)
          (Interrupted.ofExcept (openEnvelope encrypt kek (logOf kek jobs) locator j) : Os (List UInt8))
          (fun data d => d = d₀ ∧ WrittenUnder jobs locator data) (fun e d => d = d₀ ∧ e ∈ authentication)
          (· = d₀) :=
        .ofExcept (fun data hdata d hd => ⟨hd, writtenUnder_of_openEnvelope hdata⟩)
          fun e he d hd => ⟨hd, authentic_openEnvelope _ _ _ e he⟩
      refine .tryCatch hopen fun e => ?_
      rw [unauthentic]
      split_ifs with hcaught
      · exact .throw fun d hd => ⟨hd.1, .inl (.inr rfl)⟩
      · refine .throw fun d hd => ⟨hd.1, .inl (.inr ?_)⟩
        rcases List.mem_cons.mp hd.2 with h | h
        · exact h
        · exact absurd h hcaught

/-- A read returns what was written under the name, or raises one of the two errors of the store, and
leaves the disk as it is. -/
def ReadsOrRefuses {α : Type} (d₀ : Disk) (x : Os α) (Q : α → Prop) : Prop :=
  Triple (· = d₀) x (fun a d => d = d₀ ∧ Q a)
    (fun e d => d = d₀ ∧ (e = .ContentStoreUnavailable ∨ e = .IntegrityFailure)) (· = d₀)

lemma readsOrRefuses_get (jobs : List Job) {nesting : ℕ} {d₀ : Disk} {locator : String}
    (hdeep : ¬TooDeep nesting d₀ locator) :
    ReadsOrRefuses d₀ (get encrypt kek nesting (logOf kek jobs) locator) (WrittenUnder jobs locator) :=
  (triple_get jobs nesting d₀ locator).mono (fun _ h => h) (fun _ _ h => h)
    (fun _ _ h => ⟨h.1, h.2.resolve_right fun h => hdeep h.2⟩) fun _ h => h

/-- A file that is too deep aborts the read with an exception of the interpreter. -/
lemma get_of_tooDeep {nesting : ℕ} {d : Disk} {locator : String} (h : TooDeep nesting d locator)
    (log : List Sealed) (outcomes : List Outcome) :
    (get encrypt kek nesting log locator (.done :: outcomes) d).1 = .raised (.python .RecursionError) := by
  obtain ⟨path, f, hpath, hfile, hdeep⟩ := h
  have hread : readBytes path (.done :: outcomes) d = (.returned f.content, d, outcomes) := by
    rw [readBytes, os, Interrupted.call]
    simp only [hfile]
  have hname : (Interrupted.ofExcept (_path locator) : Os String) (.done :: outcomes) d =
      (.returned path, d, .done :: outcomes) := by
    rw [hpath]
    rfl
  have hraise : (do
      let raw ← readBytes path
      Interrupted.ofExcept (python (Json.loadsBytes nesting raw)) : Os Json) (.done :: outcomes) d =
        (.raised (.python .RecursionError), d, outcomes) := by
    rw [Interrupted.bind_returned hread, hdeep]
    rfl
  have hescape : tryCatch (do
      let raw ← readBytes path
      Interrupted.ofExcept (python (Json.loadsBytes nesting raw)) : Os Json) unreadable (.done :: outcomes) d =
        (.raised (.python .RecursionError), d, outcomes) := by
    rw [Interrupted.tryCatch_raised hraise]
    rfl
  rw [get, Interrupted.bind_returned hname, Interrupted.bind_raised hescape]

/-- Exactly then a read is what it promises to be. -/
theorem readsOrRefuses_get_iff (jobs : List Job) (nesting : ℕ) (d₀ : Disk) (locator : String) :
    ReadsOrRefuses d₀ (get encrypt kek nesting (logOf kek jobs) locator) (WrittenUnder jobs locator) ↔
      ¬TooDeep nesting d₀ locator := by
  refine ⟨fun h hdeep => ?_, readsOrRefuses_get jobs⟩
  have hrun := h [.done] d₀ rfl
  have hescape : (get encrypt kek nesting (logOf kek jobs) locator [.done] d₀).1 =
      .raised (.python .RecursionError) := get_of_tooDeep hdeep (logOf kek jobs) []
  generalize get encrypt kek nesting (logOf kek jobs) locator [.done] d₀ = result at hrun hescape
  obtain ⟨ending, d, rest⟩ := result
  subst hescape
  rcases hrun.2 with h | h <;> cases h

/-- The file of an object that is whole is read as its data. -/
theorem get_of_whole {nesting : ℕ} (hnesting : 1 ≤ nesting) (hkek : kek.length = 32)
    (hnodup : (jobs.map Job.locator).Nodup) {job : Job} (hjob : job ∈ jobs) {d : Disk}
    (hwhole : d.entries (finalName job.locator) = whole (envelopeBytes encrypt kek job))
    (outcomes : List Outcome) :
    get encrypt kek nesting (logOf kek jobs) job.locator (.done :: outcomes) d =
      (.returned job.data, d, outcomes) := by
  have hname : (Interrupted.ofExcept (_path job.locator) : Os String) (.done :: outcomes) d =
      (.returned (finalName job.locator), d, .done :: outcomes) := by
    rw [path_of_job]
    rfl
  have hread : readBytes (finalName job.locator) (.done :: outcomes) d =
      (.returned (envelopeBytes encrypt kek job), d, outcomes) := by
    rw [readBytes, os, Interrupted.call]
    simp only [hwhole, whole]
  have hparse : Json.loadsBytes nesting (envelopeBytes encrypt kek job) =
      .ok (.obj (envelope encrypt kek job)) := by
    refine Json.loadsBytes_text hnesting ?_ (show ["v", "kek", "wn", "wk", "n", "ct"].Nodup by decide)
    intro e he
    simp only [List.mem_cons, List.not_mem_nil, or_false] at he
    rcases he with rfl | rfl | rfl | rfl | rfl | rfl
    · exact .int 1 (by decide +kernel)
    iterate 5 exact .str _
  have henvelope : tryCatch (do
      let raw ← readBytes (finalName job.locator)
      Interrupted.ofExcept (python (Json.loadsBytes nesting raw)) : Os Json) unreadable (.done :: outcomes) d =
        (.returned (.obj (envelope encrypt kek job)), d, outcomes) := by
    refine Interrupted.tryCatch_returned ?_
    rw [Interrupted.bind_returned hread, hparse]
    rfl
  rw [get, Interrupted.bind_returned hname, Interrupted.bind_returned henvelope]
  refine Interrupted.tryCatch_returned ?_
  rw [openEnvelope_envelope hkek hnodup hjob]
  rfl

/-- A call that keeps the disk where it returns, where it raises and where it crashes. -/
lemma disk_of_still {α : Type} {x : Os α} {d₀ : Disk} {Q : α → Disk → Prop} {E : Fault → Disk → Prop}
    (h : Triple (· = d₀) x Q E (· = d₀)) (hQ : ∀ a d, Q a d → d = d₀) (hE : ∀ e d, E e d → d = d₀)
    (outcomes : List Outcome) : (x outcomes d₀).2.1 = d₀ := by
  have hrun := h outcomes d₀ rfl
  generalize x outcomes d₀ = result at hrun
  obtain ⟨ending, d, rest⟩ := result
  cases ending with
  | returned a => exact hQ a d hrun
  | raised e => exact hE e d hrun
  | crashed => exact hrun

variable (sha256 : List UInt8 → String) (expected_sha256 : String) (expected_length : ℕ)

/-- Data of the expected digest and length was written under the name. -/
def Verified (jobs : List Job) (locator : String) : Prop :=
  ∃ data, WrittenUnder jobs locator data ∧ data.length = expected_length ∧ sha256 data = expected_sha256

theorem triple_verify (jobs : List Job) (nesting : ℕ) (d₀ : Disk) (locator : String) :
    Triple (· = d₀) (verify encrypt kek sha256 nesting (logOf kek jobs) locator expected_sha256 expected_length)
      (fun _ d => d = d₀ ∧ Verified sha256 expected_sha256 expected_length jobs locator)
      (fun e d => d = d₀ ∧ ((e = .ContentStoreUnavailable ∨ e = .IntegrityFailure) ∨
        e = .python .RecursionError ∧ TooDeep nesting d₀ locator)) (· = d₀) := by
  rw [verify]
  refine .bind (triple_get jobs nesting d₀ locator) fun data => ?_
  split_ifs with hmismatch
  · exact .throw fun d hd => ⟨hd.1, .inl (.inr rfl)⟩
  · rw [not_or, not_not, not_not] at hmismatch
    exact .pure fun d hd => ⟨hd.1, data, hd.2, hmismatch⟩

lemma readsOrRefuses_verify (jobs : List Job) {nesting : ℕ} {d₀ : Disk} {locator : String}
    (hdeep : ¬TooDeep nesting d₀ locator) :
    ReadsOrRefuses d₀ (verify encrypt kek sha256 nesting (logOf kek jobs) locator expected_sha256 expected_length)
      fun _ => Verified sha256 expected_sha256 expected_length jobs locator :=
  (triple_verify sha256 expected_sha256 expected_length jobs nesting d₀ locator).mono (fun _ h => h)
    (fun _ _ h => h) (fun _ _ h => ⟨h.1, h.2.resolve_right fun h => hdeep h.2⟩) fun _ h => h

end Reading

end TrustLens.Backend.ContentStore
