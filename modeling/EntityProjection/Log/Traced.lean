import EntityProjection.Log.Event

/-!
# Traced results

A result together with what was logged on the way to it.  An error ends the way, and what was logged
before it stays.
-/

namespace EntityProjection

/-- A result with the entries logged on the way to it. -/
structure Traced (ε α : Type) where
  entries : List LogEntry := []
  result : Except ε α

namespace Traced

variable {ε δ α β : Type}

/-- A result about which nothing is logged. -/
def ofExcept (result : Except ε α) : Traced ε α :=
  { result }

/-- A way that goes on with the result of another one. -/
def bind (way : Traced ε α) (next : α → Traced ε β) : Traced ε β :=
  match way.result with
  | .error e => ⟨way.entries, .error e⟩
  | .ok a =>
    let more := next a
    ⟨way.entries ++ more.entries, more.result⟩

instance : Monad (Traced ε) where
  pure a := { result := .ok a }
  bind := bind

/-- Logs entries. -/
def log (entries : List LogEntry) : Traced ε Unit :=
  ⟨entries, .ok ()⟩

/-- Logs an event. -/
def event (e : LogEvent) : Traced ε Unit :=
  log [{ event := e }]

/-- Ends with an error. -/
def fail (e : ε) : Traced ε α :=
  { result := .error e }

/-! ### Results -/

@[simp]
theorem result_pure (a : α) : (pure a : Traced ε α).result = .ok a :=
  rfl

/-- What is logged on a way has no influence on its result. -/
@[simp]
theorem result_bind (way : Traced ε α) (next : α → Traced ε β) :
    (way >>= next).result = way.result >>= fun a => (next a).result := by
  obtain ⟨entries, result⟩ := way
  cases result <;> rfl

@[simp]
theorem result_ofExcept (result : Except ε α) : (ofExcept result).result = result :=
  rfl

@[simp]
theorem result_fail (e : ε) : (fail e : Traced ε α).result = .error e :=
  rfl

@[simp]
theorem result_event (e : LogEvent) : (event e : Traced ε Unit).result = .ok () :=
  rfl

end Traced

end EntityProjection
