import ActorFacade.Text.Basic

/-! # Journals

While an actor is made, records say what happens.  A `Logged` computation has the records that it
wrote, in order, beside its result; a computation that fails keeps the records written before.
-/

namespace ActorFacade

/-- How much a record matters. -/
structure Level where
  /-- Its rank; what matters more has a higher one. -/
  rank : Nat
deriving DecidableEq, Repr

namespace Level

/-- The level of details. -/
def debug : Level := ⟨10⟩

/-- The level of what is worth knowing. -/
def info : Level := ⟨20⟩

/-- The level of what may be a mistake. -/
def warning : Level := ⟨30⟩

/-- The level of failures. -/
def error : Level := ⟨40⟩

/-- The level of failures that end the program. -/
def critical : Level := ⟨50⟩

/-- The ranks that have names. -/
def names : List (Nat × Text) :=
  [(0, "NOTSET"), (10, "DEBUG"), (20, "INFO"), (30, "WARNING"), (40, "ERROR"), (50, "CRITICAL")]

/-- The name of a level. -/
def name (l : Level) : Text := (names.lookup l.rank).getD ("Level " ++ Text.ofNat l.rank)

/-- Whether a level reaches another. -/
def reaches (l least : Level) : Bool := least.rank ≤ l.rank

end Level

/-- A part of the program that writes records. -/
inductive Channel where
  /-- The program as a whole. -/
  | root
  /-- A named part of it. -/
  | part (name : Text)
deriving DecidableEq, Repr

/-- The name of a channel. -/
def Channel.name : Channel → Text
  | .root => "actorgen"
  | .part name => "actorgen." ++ name

/-- The channel of a part; an empty name stands for the program as a whole. -/
def Channel.ofName (name : Text) : Channel := if name.isEmpty then .root else .part name

/-- A record. -/
structure Record where
  /-- How much it matters. -/
  level : Level
  /-- Who wrote it. -/
  channel : Channel
  /-- What it says, unless its words cannot be put together. -/
  message : Option Text
deriving DecidableEq, Repr

/-- The line of a record in a file, without its time. -/
def Record.line? (r : Record) : Option Text :=
  r.message.map fun message ↦ r.level.name ++ " " ++ r.channel.name ++ ": " ++ message

/-! ## Computations with records -/

/-- A computation that writes records and may fail. -/
@[ext]
structure Logged (ε α : Type) where
  /-- The records in order. -/
  records : List Record
  /-- The result or the failure. -/
  result : Except ε α

namespace Logged

variable {ε α β : Type}

instance : Monad (Logged ε) where
  pure a := ⟨[], .ok a⟩
  bind x f :=
    match x.result with
    | .ok a => ⟨x.records ++ (f a).records, (f a).result⟩
    | .error e => ⟨x.records, .error e⟩

/-- Writes a record. -/
def write (r : Record) : Logged ε Unit := ⟨[r], .ok ()⟩

/-- A result without records. -/
def ofExcept (r : Except ε α) : Logged ε α := ⟨[], r⟩

/-- A failure without records. -/
def fail (e : ε) : Logged ε α := ⟨[], .error e⟩

/-- The same computation with another failure. -/
def mapError {δ : Type} (f : ε → δ) (x : Logged ε α) : Logged δ α :=
  ⟨x.records, x.result.mapError f⟩

@[simp] theorem records_pure (a : α) : (pure a : Logged ε α).records = [] := rfl

@[simp] theorem result_pure (a : α) : (pure a : Logged ε α).result = .ok a := rfl

theorem bind_of_ok {x : Logged ε α} {a : α} (h : x.result = .ok a) (f : α → Logged ε β) :
    x >>= f = ⟨x.records ++ (f a).records, (f a).result⟩ := by
  simp only [bind, h]

theorem bind_of_error {x : Logged ε α} {e : ε} (h : x.result = .error e) (f : α → Logged ε β) :
    x >>= f = ⟨x.records, .error e⟩ := by
  simp only [bind, h]

/-- A bind succeeds exactly when both of its stages do. -/
theorem result_bind_eq_ok_iff {x : Logged ε α} {f : α → Logged ε β} {b : β} :
    (x >>= f).result = .ok b ↔ ∃ a, x.result = .ok a ∧ (f a).result = .ok b := by
  cases h : x.result with
  | ok a => simp [bind_of_ok h]
  | error e => simp [bind_of_error h]

end Logged

end ActorFacade
