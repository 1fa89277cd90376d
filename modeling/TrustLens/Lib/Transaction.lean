/-!
# Database transactions

A transaction raises, or gives the next tables with a result. Its client sees the commit,
an error, or a fault of the connection, and after a fault it cannot tell whether the
transaction committed.
-/

namespace TrustLens

/-- How the connection carries a transaction: to its commit, not at all, or to a commit its
client is not told of. -/
inductive Delivery where
  | committed
  | rolledBack
  | unconfirmed
deriving DecidableEq

/-- What the client of a transaction sees. -/
inductive Seen (ε ρ : Type) where
  | done (r : ρ)
  | error (e : ε)
  | fault
deriving DecidableEq

variable {ε σ ρ : Type}

def deliver (db : σ) (tx : Except ε (σ × ρ)) : Delivery → σ × Seen ε ρ
  | .rolledBack => (db, .fault)
  | .committed =>
    match tx with
    | .ok (db', r) => (db', .done r)
    | .error e => (db, .error e)
  | .unconfirmed =>
    match tx with
    | .ok (db', _) => (db', .fault)
    | .error e => (db, .error e)

/-- The tables stay and no result is seen, or the transaction went through. -/
theorem deliver_cases (db : σ) (tx : Except ε (σ × ρ)) (d : Delivery) :
    (∃ seen, deliver db tx d = (db, seen) ∧ ∀ r, seen ≠ .done r) ∨
      ∃ db' r seen, tx = .ok (db', r) ∧ deliver db tx d = (db', seen) ∧
        (seen = .done r ∨ seen = .fault) := by
  rcases tx with e | ⟨db', r⟩
  · cases d with
    | committed => exact .inl ⟨.error e, rfl, nofun⟩
    | rolledBack => exact .inl ⟨.fault, rfl, nofun⟩
    | unconfirmed => exact .inl ⟨.error e, rfl, nofun⟩
  · cases d with
    | committed => exact .inr ⟨db', r, .done r, rfl, rfl, .inl rfl⟩
    | rolledBack => exact .inl ⟨.fault, rfl, nofun⟩
    | unconfirmed => exact .inr ⟨db', r, .fault, rfl, rfl, .inr rfl⟩

end TrustLens
