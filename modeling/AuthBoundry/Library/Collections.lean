import AuthBoundry.Library.Requests

/-!
# Collections of versioned records

A database of named collections.  Each record has an identifier and a version
that every write of it changes; an update names the version it has read and is
refused if the record has changed since.  Every call may fail, and then changes
nothing.
-/

namespace Library

variable {R : Type}

/-- A record as a collection returns it. -/
structure Versioned (R : Type) where
  id : String
  version : Nat
  record : R

/-- What is stored under each identifier. -/
structure Collection (R : Type) where
  stored : String → Option (Nat × R)

namespace Collection

variable {self updated : Collection R} {id : String} {version : Nat}
  {record : R}

def empty : Collection R := { stored := fun _ => none }

def get (self : Collection R) (id : String) : Option (Versioned R) :=
  (self.stored id).map fun (version, record) => { id, version, record }

def put (self : Collection R) (id : String) (version : Nat) (record : R) :
    Collection R :=
  { stored := Function.update self.stored id (some (version, record)) }

def updateIfVersion (self : Collection R) (id : String) (version : Nat)
    (record : R) : Option (Collection R) :=
  match self.stored id with
  | some (current, _) =>
      if current = version then some (self.put id (version + 1) record)
      else none
  | none => none

def insert (self : Collection R) (id : String) (record : R) :
    Option (Collection R) :=
  match self.stored id with
  | some _ => none
  | none => some (self.put id 0 record)

@[simp] theorem stored_put_self :
    (self.put id version record).stored id = some (version, record) := by
  simp [put]

theorem stored_put_of_ne {other : String} (different : other ≠ id) :
    (self.put id version record).stored other = self.stored other := by
  simp [put, different]

theorem get_eq_some_iff {found : Versioned R} :
    self.get id = some found ↔
      found.id = id ∧ self.stored id = some (found.version, found.record) := by
  unfold get
  cases stored : self.stored id with
  | none => simp
  | some entry =>
      obtain ⟨version, record⟩ := entry
      obtain ⟨foundId, foundVersion, foundRecord⟩ := found
      simp [eq_comm]

theorem get_eq_none_iff : self.get id = none ↔ self.stored id = none := by
  simp [get]

theorem updateIfVersion_eq_some_iff :
    self.updateIfVersion id version record = some updated ↔
      (∃ old, self.stored id = some (version, old)) ∧
        updated = self.put id (version + 1) record := by
  unfold updateIfVersion
  cases stored : self.stored id with
  | none => simp
  | some entry =>
      obtain ⟨current, old⟩ := entry
      by_cases same : current = version
      · simp [same, eq_comm]
      · simp [same]

theorem insert_eq_some_iff :
    self.insert id record = some updated ↔
      self.stored id = none ∧ updated = self.put id 0 record := by
  unfold insert
  cases self.stored id with
  | none => simp [eq_comm]
  | some entry => simp

/-- A write changes what is stored under its identifier. -/
theorem stored_put_ne_of_update {old : R}
    (before : self.stored id = some (version, old)) :
    (self.put id (version + 1) record).stored id ≠ self.stored id := by
  rw [stored_put_self, before]
  intro same
  obtain ⟨impossible, -⟩ := Prod.mk.inj (Option.some.inj same)
  omega

theorem stored_put_ne_of_insert (before : self.stored id = none) :
    (self.put id version record).stored id ≠ self.stored id := by
  rw [stored_put_self, before]
  nofun

theorem put_ne (different : (self.put id version record).stored id ≠
    self.stored id) : self.put id version record ≠ self := by
  intro same
  rw [same] at different
  exact different rfl

end Collection

/-! ## Calls -/

section Calls

variable {Name : Type} {Record : Name → Type}

/-- The calls on the collections of a database. -/
inductive CollectionCall (Name : Type) (Record : Name → Type) where
  | get (name : Name) (id : String)
  | updateIfVersion (name : Name) (id : String) (version : Nat)
      (record : Record name)
  | insert (name : Name) (record : Record name)

def CollectionCall.writes : CollectionCall Name Record → Option Name
  | .get .. => none
  | .updateIfVersion name .. => some name
  | .insert name _ => some name

/-- What a call that succeeds gives. -/
abbrev CollectionResult (Record : Name → Type) :
    CollectionCall Name Record → Type
  | .get name _ => Option (Versioned (Record name))
  | .updateIfVersion .. => Unit
  | .insert .. => String

/-- A call that fails gives a message. -/
abbrev CollectionAnswer (Record : Name → Type)
    (call : CollectionCall Name Record) : Type :=
  Except String (CollectionResult Record call)

abbrev Database (Record : Name → Type) :=
  (name : Name) → Collection (Record name)

/-- What decides how a call goes: it fails, or it is carried out, with an
identifier for what it inserts. -/
inductive CallEvent where
  | fails (message : String)
  | served (fresh : String)
  deriving DecidableEq

abbrev CallExchange (Record : Name → Type) :=
  Exchange (CollectionCall Name Record) (CollectionAnswer Record)

namespace Exchange

/-- The call was carried out. -/
def Succeeded (exchange : CallExchange Record) : Prop :=
  exchange.answer.isOk

instance (exchange : CallExchange Record) : Decidable exchange.Succeeded :=
  inferInstanceAs (Decidable (_ = true))

def changes (exchange : CallExchange Record) : Option Name :=
  if exchange.Succeeded then exchange.request.writes else none

theorem succeeded_iff {exchange : CallExchange Record} :
    exchange.Succeeded ↔ ∃ result, exchange.answer = .ok result := by
  unfold Succeeded
  cases exchange.answer with
  | error message => simp [Except.isOk, Except.toBool]
  | ok result => simp [Except.isOk, Except.toBool]

theorem changes_eq_some_iff {exchange : CallExchange Record} {name : Name} :
    exchange.changes = some name ↔
      exchange.Succeeded ∧ exchange.request.writes = some name := by
  simp [changes]

end Exchange

variable [DecidableEq Name]

namespace Database

def serve (self : Database Record) (call : CollectionCall Name Record)
    (event : CallEvent) : CollectionAnswer Record call × Database Record :=
  match event, call with
  | .fails message, _ => (.error message, self)
  | .served _, .get name id => (.ok ((self name).get id), self)
  | .served _, .updateIfVersion name id version record =>
      match (self name).updateIfVersion id version record with
      | some updated => (.ok (), Function.update self name updated)
      | none => (.error "version conflict", self)
  | .served fresh, .insert name record =>
      match (self name).insert fresh record with
      | some inserted => (.ok fresh, Function.update self name inserted)
      | none => (.error "identifier in use", self)

variable {self : Database Record} {call : CollectionCall Name Record}
  {event : CallEvent}

theorem update_apply_ne_iff {name written : Name}
    {after : Collection (Record written)} (different : after ≠ self written) :
    Function.update self written after name ≠ self name ↔ written = name := by
  constructor
  · intro changed
    by_contra other
    exact changed (Function.update_of_ne (Ne.symm other) after self)
  · rintro rfl
    rw [Function.update_self]
    exact different

theorem serve_get_iff {name : Name} {id : String}
    {found : Option (Versioned (Record name))} {after : Database Record} :
    self.serve (.get name id) event = (.ok found, after) ↔
      (∃ fresh, event = .served fresh) ∧ (self name).get id = found ∧
        self = after := by
  cases event with
  | fails message => simp [serve]
  | served fresh =>
      constructor
      · intro same
        cases same
        exact ⟨⟨fresh, rfl⟩, rfl, rfl⟩
      · rintro ⟨-, rfl, rfl⟩
        rfl

theorem serve_update_iff {name : Name} {id : String} {version : Nat}
    {record : Record name} {after : Database Record} :
    self.serve (.updateIfVersion name id version record) event =
        (.ok (), after) ↔
      (∃ fresh, event = .served fresh) ∧
        (∃ old, (self name).stored id = some (version, old)) ∧
        Function.update self name ((self name).put id (version + 1) record) =
          after := by
  cases event with
  | fails message => simp [serve]
  | served fresh =>
      have updates := fun changed => @Collection.updateIfVersion_eq_some_iff _
        (self name) changed id version record
      cases updated : (self name).updateIfVersion id version record with
      | none =>
          have refused : ¬∃ old, (self name).stored id = some (version, old) := by
            rintro current
            have := (updates _).mpr ⟨current, rfl⟩
            rw [updated] at this
            cases this
          simp [serve, updated, refused]
      | some changed =>
          obtain ⟨current, rfl⟩ := (updates _).mp updated
          simp [serve, updated, current]

theorem serve_insert_iff {name : Name} {record : Record name} {id : String}
    {after : Database Record} :
    self.serve (.insert name record) event = (.ok id, after) ↔
      event = .served id ∧ (self name).stored id = none ∧
        Function.update self name ((self name).put id 0 record) = after := by
  cases event with
  | fails message => simp [serve]
  | served fresh =>
      have inserts := fun changed => @Collection.insert_eq_some_iff _
        (self name) changed fresh record
      cases inserted : (self name).insert fresh record with
      | none =>
          have used : (self name).stored fresh ≠ none := by
            intro free
            have := (inserts _).mpr ⟨free, rfl⟩
            rw [inserted] at this
            cases this
          simp only [serve, inserted, Prod.mk.injEq, reduceCtorEq, false_and,
            CallEvent.served.injEq, false_iff]
          rintro ⟨rfl, free, -⟩
          exact used free
      | some changed =>
          obtain ⟨free, rfl⟩ := (inserts _).mp inserted
          have serves : self.serve (.insert name record) (.served fresh) =
              (.ok fresh, Function.update self name
                ((self name).put fresh 0 record)) := by
            simp only [serve, inserted]
          rw [serves]
          constructor
          · intro same
            cases same
            exact ⟨rfl, free, rfl⟩
          · rintro ⟨same, -, rfl⟩
            cases same
            rfl

theorem serve_apply_ne_iff {name : Name} :
    (self.serve call event).2 name ≠ self name ↔
      (⟨call, (self.serve call event).1⟩ : CallExchange Record).changes =
        some name := by
  cases event with
  | fails message =>
      simp [serve, Exchange.changes_eq_some_iff, Exchange.succeeded_iff]
  | served fresh =>
      cases call with
      | get name id =>
          simp [serve, Exchange.changes_eq_some_iff, CollectionCall.writes]
      | updateIfVersion written id version record =>
          cases updated :
              (self written).updateIfVersion id version record with
          | none =>
              simp [serve, updated, Exchange.changes_eq_some_iff,
                Exchange.succeeded_iff]
          | some after =>
              obtain ⟨⟨old, stored⟩, rfl⟩ :=
                Collection.updateIfVersion_eq_some_iff.mp updated
              simp only [serve, updated, Exchange.changes_eq_some_iff,
                Exchange.succeeded_iff, CollectionCall.writes, exists_const,
                Option.some.injEq, true_and]
              exact update_apply_ne_iff
                (Collection.put_ne (Collection.stored_put_ne_of_update stored))
      | insert written record =>
          cases inserted : (self written).insert fresh record with
          | none =>
              simp [serve, inserted, Exchange.changes_eq_some_iff,
                Exchange.succeeded_iff]
          | some after =>
              obtain ⟨free, rfl⟩ := Collection.insert_eq_some_iff.mp inserted
              simp only [serve, inserted, Exchange.changes_eq_some_iff,
                Exchange.succeeded_iff, Except.ok.injEq, exists_eq',
                CollectionCall.writes, Option.some.injEq, true_and]
              exact update_apply_ne_iff
                (Collection.put_ne (Collection.stored_put_ne_of_insert free))

end Database

end Calls

end Library
