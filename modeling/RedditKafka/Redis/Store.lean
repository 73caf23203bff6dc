import Mathlib.Logic.Function.Basic

/-!
# A key-value server

Strings with an optional deadline, hashes and sets, as a Redis server holds
them between two commands. A key is used at one type only, and an empty hash or
set is an absent key. Time is counted in milliseconds.
-/
namespace Redis

structure Entry where
  value : String
  expiresAt : Option Nat := none
  deriving DecidableEq, Repr

def Entry.liveAt (now : Nat) (e : Entry) : Bool :=
  match e.expiresAt with
  | none => true
  | some deadline => now ≤ deadline

abbrev Hash := List (String × String)

namespace Hash

def get (h : Hash) (field : String) : Option String := h.lookup field

def setField (h : Hash) (field value : String) : Hash :=
  (field, value) :: h.filter fun entry => entry.1 ≠ field

/-- `HSET` with several fields, from the first to the last. -/
def setFields (h : Hash) : List (String × String) → Hash
  | [] => h
  | (field, value) :: rest => setFields (h.setField field value) rest

theorem get_setField_self (h : Hash) (field value : String) :
    (h.setField field value).get field = some value := by
  simp [get, setField]

theorem get_setField_of_ne {field field' : String} (h : Hash) (ne : field' ≠ field)
    (value : String) : (h.setField field value).get field' = h.get field' := by
  induction h with
  | nil => simp [get, setField, List.lookup_cons, beq_eq_false_iff_ne.mpr ne]
  | cons entry h ih =>
      obtain ⟨k, v⟩ := entry
      simp only [get, setField, List.lookup_cons, beq_eq_false_iff_ne.mpr ne] at ih ⊢
      by_cases same : k = field
      · subst same
        simpa [beq_eq_false_iff_ne.mpr ne] using ih
      · rw [List.filter_cons_of_pos (by simpa using same)]
        by_cases here : field' = k
        · simp [List.lookup_cons, here]
        · simpa [List.lookup_cons, beq_eq_false_iff_ne.mpr here] using ih

@[simp] theorem get_setField (h : Hash) (field field' value : String) :
    (h.setField field value).get field' = if field' = field then some value else h.get field' := by
  split
  · rename_i same
    rw [same, get_setField_self]
  · rename_i other
    rw [get_setField_of_ne h other]

@[simp] theorem setFields_nil (h : Hash) : h.setFields [] = h := rfl

@[simp] theorem setFields_cons (h : Hash) (field value : String) (rest : List (String × String)) :
    h.setFields ((field, value) :: rest) = (h.setField field value).setFields rest := rfl

theorem ne_nil_of_get {h : Hash} {field value : String} (held : h.get field = some value) :
    h ≠ [] := by
  rintro rfl
  cases held

end Hash

structure Store where
  now : Nat := 0
  strings : String → Option Entry := fun _ => none
  hashes : String → Hash := fun _ => []
  sets : String → List String := fun _ => []

namespace Store

variable (s : Store)

/-- The string under a key, unless its deadline has passed. -/
def entry (key : String) : Option Entry :=
  (s.strings key).filter (Entry.liveAt s.now)

def get (key : String) : Option String := (s.entry key).map Entry.value

/-- `EXISTS`, for a key of any type. -/
def has (key : String) : Bool :=
  (s.entry key).isSome || !(s.hashes key).isEmpty || !(s.sets key).isEmpty

def put (key : String) (e : Entry) : Store :=
  { s with strings := Function.update s.strings key (some e) }

def set (key value : String) : Store := s.put key ⟨value, none⟩

/-- `SET` with `EX`, for a time to live in seconds. -/
def setEx (key value : String) (ttl : Nat) : Store := s.put key ⟨value, some (s.now + 1000 * ttl)⟩

def del (key : String) : Store :=
  { s with
    strings := Function.update s.strings key none
    hashes := Function.update s.hashes key []
    sets := Function.update s.sets key [] }

/-- `EXPIRE` of a string: a time to live that is not positive deletes the key. -/
def expire (key : String) (ttl : Int) : Bool × Store :=
  match s.entry key with
  | none => (false, s)
  | some e => if ttl ≤ 0 then (true, s.del key) else (true, s.setEx key e.value ttl.toNat)

def hget (key field : String) : Option String := (s.hashes key).get field

def hset (key : String) (mapping : List (String × String)) : Store :=
  { s with hashes := Function.update s.hashes key ((s.hashes key).setFields mapping) }

def sadd (key member : String) : Store :=
  if member ∈ s.sets key then s
  else { s with sets := Function.update s.sets key (s.sets key ++ [member]) }

def srem (key : String) (members : List String) : Store :=
  { s with sets := Function.update s.sets key ((s.sets key).filter fun m => m ∉ members) }

/-- Time passes. -/
def elapse (milliseconds : Nat) : Store := { s with now := s.now + milliseconds }

/-! ## What each command leaves behind -/

variable {s} {key key' field value member : String}

@[simp] theorem put_now (e : Entry) : (s.put key e).now = s.now := rfl
@[simp] theorem set_now : (s.set key value).now = s.now := rfl
@[simp] theorem del_now : (s.del key).now = s.now := rfl
@[simp] theorem hset_now (m : List (String × String)) : (s.hset key m).now = s.now := rfl
@[simp] theorem srem_now (ms : List String) : (s.srem key ms).now = s.now := rfl

@[simp] theorem sadd_now : (s.sadd key member).now = s.now := by
  unfold sadd
  split <;> rfl

@[simp] theorem put_hashes (e : Entry) : (s.put key e).hashes = s.hashes := rfl
@[simp] theorem set_hashes : (s.set key value).hashes = s.hashes := rfl
@[simp] theorem srem_hashes (ms : List String) : (s.srem key ms).hashes = s.hashes := rfl

@[simp] theorem sadd_hashes : (s.sadd key member).hashes = s.hashes := by
  unfold sadd
  split <;> rfl

@[simp] theorem del_hashes :
    (s.del key).hashes key' = if key' = key then [] else s.hashes key' := by
  simp [del, Function.update_apply]

@[simp] theorem hset_hashes (m : List (String × String)) :
    (s.hset key m).hashes key' =
      if key' = key then (s.hashes key).setFields m else s.hashes key' := by
  simp [hset, Function.update_apply]

@[simp] theorem put_sets (e : Entry) : (s.put key e).sets = s.sets := rfl
@[simp] theorem set_sets : (s.set key value).sets = s.sets := rfl
@[simp] theorem hset_sets (m : List (String × String)) : (s.hset key m).sets = s.sets := rfl

@[simp] theorem del_sets : (s.del key).sets key' = if key' = key then [] else s.sets key' := by
  simp [del, Function.update_apply]

@[simp] theorem srem_sets (ms : List String) :
    (s.srem key ms).sets key' =
      if key' = key then (s.sets key).filter fun m => m ∉ ms else s.sets key' := by
  simp [srem, Function.update_apply]

theorem mem_sadd_sets {m : String} :
    m ∈ (s.sadd key member).sets key' ↔ m ∈ s.sets key' ∨ key' = key ∧ m = member := by
  unfold sadd
  split
  · rename_i there
    exact ⟨.inl, fun h => h.elim id fun ⟨same, here⟩ => by rw [same, here]; exact there⟩
  · by_cases same : key' = key
    · subst same
      simp
    · simp [same]

theorem sadd_sets_of_ne (ne : key' ≠ key) : (s.sadd key member).sets key' = s.sets key' := by
  unfold sadd
  split
  · rfl
  · exact Function.update_of_ne ne _ _

@[simp] theorem entry_put (e : Entry) :
    (s.put key e).entry key' =
      if key' = key then (some e).filter (Entry.liveAt s.now) else s.entry key' := by
  simp only [entry, put, Function.update_apply]
  split <;> rfl

@[simp] theorem entry_set :
    (s.set key value).entry key' = if key' = key then some ⟨value, none⟩ else s.entry key' := by
  simp [set, Entry.liveAt, Option.filter]

theorem entry_setEx (ttl : Nat) :
    (s.setEx key value ttl).entry key' =
      if key' = key then some ⟨value, some (s.now + 1000 * ttl)⟩ else s.entry key' := by
  simp [setEx, Entry.liveAt, Option.filter]

@[simp] theorem entry_del :
    (s.del key).entry key' = if key' = key then none else s.entry key' := by
  simp only [entry, del, Function.update_apply]
  split <;> rfl

@[simp] theorem entry_hset (m : List (String × String)) :
    (s.hset key m).entry key' = s.entry key' := rfl

@[simp] theorem entry_srem (ms : List String) : (s.srem key ms).entry key' = s.entry key' := rfl

@[simp] theorem entry_sadd : (s.sadd key member).entry key' = s.entry key' := by
  unfold sadd
  split <;> rfl

theorem get_eq_some : s.get key = some value ↔ ∃ e, s.entry key = some e ∧ e.value = value := by
  simp [get]

@[simp] theorem get_set :
    (s.set key value).get key' = if key' = key then some value else s.get key' := by
  simp only [get, entry_set]
  split <;> rfl

@[simp] theorem get_del : (s.del key).get key' = if key' = key then none else s.get key' := by
  simp only [get, entry_del]
  split <;> rfl

@[simp] theorem get_hset (m : List (String × String)) : (s.hset key m).get key' = s.get key' := rfl

@[simp] theorem get_srem (ms : List String) : (s.srem key ms).get key' = s.get key' := rfl

@[simp] theorem get_sadd : (s.sadd key member).get key' = s.get key' := by simp [get]

theorem get_setEx (ttl : Nat) :
    (s.setEx key value ttl).get key' = if key' = key then some value else s.get key' := by
  simp only [get, entry_setEx]
  split <;> rfl

/-- Time only takes entries away. -/
theorem entry_elapse {e : Entry} {n : Nat} (h : (s.elapse n).entry key = some e) :
    s.entry key = some e := by
  simp only [entry, elapse, Option.filter_eq_some_iff] at h ⊢
  refine ⟨h.1, ?_⟩
  have later := h.2
  unfold Entry.liveAt at later ⊢
  split
  · rfl
  · rename_i deadline due
    simp only [due, decide_eq_true_eq] at later ⊢
    omega

theorem entry_elapse_of_lasting {e : Entry} {n : Nat} (h : s.entry key = some e)
    (lasting : e.expiresAt = none) : (s.elapse n).entry key = some e := by
  simp only [entry, elapse, Option.filter_eq_some_iff] at h ⊢
  exact ⟨h.1, by simp [Entry.liveAt, lasting]⟩

theorem get_elapse {n : Nat} (h : (s.elapse n).get key = some value) : s.get key = some value := by
  obtain ⟨e, held, same⟩ := get_eq_some.mp h
  exact get_eq_some.mpr ⟨e, entry_elapse held, same⟩

/-- Only the key of an `EXPIRE` can change. -/
theorem entry_expire_of_ne (ttl : Int) (ne : key' ≠ key) :
    (s.expire key ttl).2.entry key' = s.entry key' := by
  unfold expire
  split
  · rfl
  · split
    · simp [ne]
    · simp [entry_setEx, ne]

/-- An `EXPIRE` keeps the value of its key, or deletes the key. -/
theorem get_expire (ttl : Int) :
    (s.expire key ttl).2.get key = s.get key ∨ (s.expire key ttl).2.get key = none := by
  unfold expire
  split
  · exact .inl rfl
  · rename_i e held
    split
    · exact .inr (by simp)
    · left
      rw [get_setEx, if_pos rfl, get, held]
      rfl

theorem expire_aside (ne : key' ≠ key) (ttl : Int) :
    (s.expire key ttl).2.hashes key' = s.hashes key' ∧
      (s.expire key ttl).2.sets key' = s.sets key' := by
  unfold expire
  split
  · exact ⟨rfl, rfl⟩
  · split <;> simp [setEx, ne]

theorem hget_expire {field : String} (ne : key' ≠ key) (ttl : Int) :
    (s.expire key ttl).2.hget key' field = s.hget key' field := by
  unfold expire
  split
  · rfl
  · split <;> simp [hget, setEx, ne]

end Store
end Redis
