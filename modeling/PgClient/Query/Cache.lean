import Mathlib.Data.List.AList
import PgClient.Library.Lru
import PgClient.Query.Params

/-!
The cache of prepared statements: a map from SQL text to statement and a separate list of
the texts in the order of their last uses.
-/

namespace PgClient

structure StatementCache where
  cache : AList fun _ : String => PreparedStatement
  capacity : Nat
  order : List String

namespace StatementCache

/-- `retain(|s| s != sql)`. -/
def retain (order : List String) (sql : String) : List String := order.filter (· ≠ sql)

def new (capacity : Nat) : StatementCache := { cache := ∅, capacity, order := [] }

def len (c : StatementCache) : Nat := c.cache.entries.length

def isEmpty (c : StatementCache) : Bool := c.cache.entries.isEmpty

def get (c : StatementCache) (sql : String) : Option PreparedStatement × StatementCache :=
  if sql ∈ c.cache then (c.cache.lookup sql, { c with order := sql :: retain c.order sql })
  else (none, c)

/-- `pop_back` of the order, and the removal of what it names from the map. -/
def evict (c : StatementCache) : Option PreparedStatement × StatementCache :=
  match c.order.getLast? with
  | some oldSql =>
      (c.cache.lookup oldSql,
        { c with cache := c.cache.erase oldSql, order := c.order.dropLast })
  | none => (none, c)

def insert (c : StatementCache) (stmt : PreparedStatement) :
    Option PreparedStatement × StatementCache :=
  let c := { c with order := retain c.order stmt.sql }
  let (evicted, c) :=
    if c.capacity ≤ c.len ∧ stmt.sql ∉ c.cache then c.evict else (none, c)
  (evicted, { c with
    order := stmt.sql :: c.order
    cache := c.cache.insert stmt.sql stmt })

def remove (c : StatementCache) (sql : String) : Option PreparedStatement × StatementCache :=
  (c.cache.lookup sql, { c with order := retain c.order sql, cache := c.cache.erase sql })

def clear (c : StatementCache) : List PreparedStatement × StatementCache :=
  (c.cache.entries.map Sigma.snd, { c with order := [], cache := ∅ })

/-- The calls on a cache. -/
inductive Call where
  | get (sql : String)
  | insert (stmt : PreparedStatement)
  | remove (sql : String)
  | clear
deriving DecidableEq, Repr

/-- The statements that a call returns, and the cache afterwards. -/
def step (c : StatementCache) : Call → List PreparedStatement × StatementCache
  | .get sql => ((c.get sql).1.toList, (c.get sql).2)
  | .insert stmt => ((c.insert stmt).1.toList, (c.insert stmt).2)
  | .remove sql => ((c.remove sql).1.toList, (c.remove sql).2)
  | .clear => c.clear

/-- What the calls return one after another, and the cache in the end. -/
def run (c : StatementCache) : List Call → List (List PreparedStatement) × StatementCache
  | [] => ([], c)
  | call :: calls =>
      ((c.step call).1 :: ((c.step call).2.run calls).1, ((c.step call).2.run calls).2)

/-- An insert that evicts nothing. -/
theorem insert_spare {c : StatementCache} {stmt : PreparedStatement}
    (h : ¬ (c.capacity ≤ c.len ∧ stmt.sql ∉ c.cache)) :
    c.insert stmt = (none, { c with
      order := stmt.sql :: retain c.order stmt.sql
      cache := c.cache.insert stmt.sql stmt }) := by
  have hCond : ¬ (c.capacity ≤ ({ c with order := retain c.order stmt.sql } : StatementCache).len ∧
      stmt.sql ∉ c.cache) := h
  simp only [insert]
  rw [if_neg hCond]

/-- An insert of a text that is not cached, at capacity. -/
theorem insert_full {c : StatementCache} {stmt : PreparedStatement}
    (h : c.capacity ≤ c.len ∧ stmt.sql ∉ c.cache) (hOrder : retain c.order stmt.sql = c.order) :
    c.insert stmt = (c.evict.1, { c.evict.2 with
      order := stmt.sql :: c.evict.2.order
      cache := c.evict.2.cache.insert stmt.sql stmt }) := by
  simp only [insert, hOrder]
  rw [if_pos h]

section Refinement

open Lru

/-- The call as one on a reference cache: a statement is kept under its text. -/
def Call.op : Call → Op String PreparedStatement
  | .get sql => .get sql
  | .insert stmt => .insert stmt.sql stmt
  | .remove sql => .remove sql
  | .clear => .clear

def entry (item : Item String PreparedStatement) : Sigma fun _ : String => PreparedStatement :=
  ⟨item.key, item.value⟩

/-- The map holds the entries of the reference, and the order names them by their last uses. -/
structure Simulates (c : StatementCache) (r : Reference String PreparedStatement) : Prop where
  capacity : c.capacity = r.capacity
  entries : c.cache.entries.Perm (r.items.map entry)
  order : c.order = r.items.map Item.key
  recent : r.Recent

theorem simulates_new (capacity : Nat) : (new capacity).Simulates (.new capacity) :=
  ⟨rfl, .nil, rfl, Reference.recent_new capacity⟩

variable {c : StatementCache} {r : Reference String PreparedStatement}

theorem keys_entries (items : List (Item String PreparedStatement)) :
    (items.map entry).keys = items.map Item.key := by
  simp [List.keys, entry]

theorem dlookup_entries (items : List (Item String PreparedStatement)) (sql : String) :
    List.dlookup sql (items.map entry) =
      (items.find? fun item => item.key = sql).map Item.value := by
  induction items with
  | nil => rfl
  | cons item items ih =>
      by_cases hKey : item.key = sql
      · subst hKey
        simp [entry]
      · rw [List.map_cons, List.dlookup_cons_ne _ _ (Ne.symm hKey), ih,
          List.find?_cons_of_neg (by simpa using hKey)]

theorem kerase_entries {items : List (Item String PreparedStatement)}
    (hKeys : (items.map Item.key).Nodup) (sql : String) :
    (items.map entry).kerase sql = (items.filter fun item => item.key ≠ sql).map entry := by
  induction items with
  | nil => rfl
  | cons item items ih =>
      obtain ⟨hFresh, hKeys⟩ := List.nodup_cons.mp hKeys
      by_cases hKey : item.key = sql
      · subst hKey
        have hRest : items.filter (fun later => later.key ≠ item.key) = items := by
          rw [List.filter_eq_self]
          intro later hMem
          simpa using fun hEq => hFresh (List.mem_map.mpr ⟨later, hMem, hEq⟩)
        rw [List.map_cons, List.kerase_cons_eq (by rfl), List.filter_cons_of_neg (by simp), hRest]
      · rw [List.map_cons, List.kerase_cons_ne (Ne.symm hKey), ih hKeys,
          List.filter_cons_of_pos (by simpa using hKey), List.map_cons]

theorem dropLast_eq_retain {order : List String} {sql : String} (hNodup : order.Nodup)
    (hLast : order.getLast? = some sql) : order.dropLast = retain order sql := by
  obtain ⟨init, rfl⟩ := List.getLast?_eq_some_iff.mp hLast
  have hFresh : sql ∉ init := fun hMem =>
    (List.nodup_append.mp hNodup).2.2 sql hMem sql List.mem_cons_self rfl
  have hInit : init.filter (· ≠ sql) = init :=
    List.filter_eq_self.mpr fun s hMem => by
      simpa using fun hEq : s = sql => hFresh (hEq ▸ hMem)
  rw [List.dropLast_concat, retain, List.filter_append, hInit,
    List.filter_cons_of_neg (by simp), List.filter_nil, List.append_nil]

theorem retain_keys (items : List (Item String PreparedStatement)) (sql : String) :
    retain (items.map Item.key) sql = (items.filter fun item => item.key ≠ sql).map Item.key := by
  rw [retain, List.filter_map]
  rfl

namespace Simulates

variable (h : c.Simulates r)

include h

theorem length : c.len = r.items.length := by
  rw [len, h.entries.length_eq, List.length_map]

theorem nodupKeys : (r.items.map entry).NodupKeys := by
  rw [List.NodupKeys, keys_entries]
  exact h.recent.keys

theorem lookup (sql : String) : c.cache.lookup sql = (r.find sql).map Item.value := by
  rw [AList.lookup, List.perm_dlookup sql c.cache.nodupKeys h.entries, dlookup_entries]
  rfl

theorem mem_iff (sql : String) : sql ∈ c.cache ↔ (r.find sql).isSome := by
  rw [← AList.lookup_isSome, h.lookup, Option.isSome_map]

/-- The order is a permutation of the keys of the map. -/
theorem order_perm : c.order.Perm c.cache.keys := by
  rw [h.order, ← keys_entries]
  exact (h.entries.map Sigma.fst).symm

theorem order_nodup : c.order.Nodup := by
  rw [h.order]
  exact h.recent.keys

theorem erase_entries (sql : String) :
    (c.cache.erase sql).entries.Perm ((r.without sql).items.map entry) := by
  rw [Reference.without, ← kerase_entries h.recent.keys]
  exact h.entries.kerase c.cache.nodupKeys

/-- Without a key, on both sides. -/
theorem erase (sql : String) :
    ({ c with order := retain c.order sql, cache := c.cache.erase sql } : StatementCache).Simulates
      (r.without sql) where
  capacity := h.capacity
  entries := h.erase_entries sql
  order := by
    rw [h.order, retain_keys]
    rfl
  recent := h.recent.without sql

/-- The use of a key, on both sides. -/
theorem insert (sql : String) (stmt : PreparedStatement) :
    ({ c with order := sql :: retain c.order sql,
              cache := c.cache.insert sql stmt } : StatementCache).Simulates (r.use sql stmt) where
  capacity := h.capacity
  entries := (h.erase_entries sql).cons _
  order := by
    rw [h.order, retain_keys]
    rfl
  recent := h.recent.use sql stmt

theorem victim : c.order.getLast? = r.victim.map Item.key := by
  rw [h.order, h.recent.victim_eq, List.getLast?_map]

/-- A statement that is used stays in the map as it is. -/
theorem get {sql : String} {item : Item String PreparedStatement} (hFind : r.find sql = some item) :
    ({ c with order := sql :: retain c.order sql } : StatementCache).Simulates
      (r.use sql item.value) where
  capacity := h.capacity
  entries := by
    have hMem : (⟨sql, item.value⟩ : Sigma fun _ => PreparedStatement) ∈ r.items.map entry := by
      have hKey : item.key = sql := by simpa using List.find?_some hFind
      exact List.mem_map.mpr ⟨item, List.mem_of_find?_eq_some hFind, by rw [entry, hKey]⟩
    obtain ⟨stmt, before, later, _, hItems, hErase⟩ :=
      List.exists_of_kerase (List.mem_keys_of_mem hMem)
    have hStmt : item.value = stmt :=
      h.nodupKeys.eq_of_mk_mem hMem (hItems ▸ List.mem_append_right _ List.mem_cons_self)
    have hRest : (r.without sql).items.map entry = before ++ later := by
      rw [← hErase, kerase_entries h.recent.keys]
      rfl
    apply h.entries.trans
    rw [hItems, ← hStmt, Reference.use, List.map_cons, hRest]
    exact List.perm_middle
  order := by
    rw [h.order, retain_keys]
    rfl
  recent := h.recent.use sql item.value

/-- Evicting a statement for one under a new key. -/
theorem evict {item : Item String PreparedStatement} (hVictim : r.victim = some item) :
    ∃ c', c.evict = (some item.value, c') ∧ c'.Simulates (r.without item.key) := by
  have hLast : c.order.getLast? = some item.key := by rw [h.victim, hVictim]; rfl
  have hMem : item ∈ r.items := by
    rw [h.recent.victim_eq] at hVictim
    exact List.mem_of_getLast? hVictim
  have hStmt : c.cache.lookup item.key = some item.value := by
    rw [h.lookup, h.recent.find_of_mem hMem, Option.map_some]
  have hEvict : c.evict = (some item.value,
      { c with cache := c.cache.erase item.key, order := c.order.dropLast }) := by
    simp only [StatementCache.evict, hLast, hStmt]
  refine ⟨_, hEvict, ?_⟩
  rw [dropLast_eq_retain h.order_nodup hLast]
  exact h.erase item.key

theorem retain_eq {sql : String} (hNone : r.find sql = none) : retain c.order sql = c.order := by
  have hOut : sql ∉ c.order := by
    intro hMem
    have hIn := (h.mem_iff sql).mp (h.order_perm.subset hMem)
    simp [hNone] at hIn
  exact List.filter_eq_self.mpr fun s hMem => by
    simpa using fun hEq : s = sql => hOut (hEq ▸ hMem)

end Simulates

theorem find_without {sql : String} (hNone : r.find sql = none) (key : String) :
    (r.without key).find sql = none :=
  List.find?_eq_none.mpr fun item hMem =>
    List.find?_eq_none.mp hNone item (List.mem_filter.mp hMem).1

/-- Each call answers as the reference does. -/
theorem step_refines (h : c.Simulates r) (call : Call) :
    (c.step call).1.Perm (r.step call.op).1 ∧ (c.step call).2.Simulates (r.step call.op).2 := by
  cases call with
  | get sql =>
      simp only [step, StatementCache.get, Call.op, Reference.step]
      cases hFind : r.find sql with
      | none =>
          rw [if_neg (by simp [h.mem_iff, hFind])]
          exact ⟨.nil, h⟩
      | some item =>
          rw [if_pos (by simp [h.mem_iff, hFind])]
          exact ⟨by simp [h.lookup, hFind], h.get hFind⟩
  | insert stmt =>
      simp only [step, Call.op, Reference.step]
      by_cases hFull : (r.find stmt.sql).isNone ∧ r.capacity ≤ r.items.length
      · rw [if_pos hFull]
        have hNone : r.find stmt.sql = none := Option.isNone_iff_eq_none.mp hFull.1
        have hCond : c.capacity ≤ c.len ∧ stmt.sql ∉ c.cache := by
          rw [h.capacity, h.length, h.mem_iff, hNone]
          exact ⟨hFull.2, by simp⟩
        rw [insert_full hCond (h.retain_eq hNone)]
        cases hVictim : r.victim with
        | some item =>
            obtain ⟨c', hEvict, hLater⟩ := h.evict hVictim
            have hFresh := hLater.retain_eq (find_without hNone item.key)
            have hInsert := hLater.insert stmt.sql stmt
            rw [hFresh] at hInsert
            rw [hEvict]
            exact ⟨.refl _, hInsert⟩
        | none =>
            have hEvict : c.evict = (none, c) := by
              have hLast : c.order.getLast? = none := by rw [h.victim, hVictim]; rfl
              simp only [StatementCache.evict, hLast]
            have hInsert := h.insert stmt.sql stmt
            rw [h.retain_eq hNone] at hInsert
            rw [hEvict]
            exact ⟨.nil, hInsert⟩
      · rw [if_neg hFull]
        have hCond : ¬ (c.capacity ≤ c.len ∧ stmt.sql ∉ c.cache) := by
          rw [h.capacity, h.length, h.mem_iff]
          intro hCond
          exact hFull ⟨by simpa using hCond.2, hCond.1⟩
        rw [insert_spare hCond]
        exact ⟨.nil, h.insert stmt.sql stmt⟩
  | remove sql =>
      refine ⟨?_, h.erase sql⟩
      simp only [step, StatementCache.remove, Call.op, Reference.step, h.lookup]
      cases r.find sql <;> exact .refl _
  | clear =>
      refine ⟨?_, h.capacity, .nil, rfl, .clear⟩
      have hValues := h.entries.map Sigma.snd
      rw [List.map_map] at hValues
      exact hValues

theorem run_refines (h : c.Simulates r) (calls : List Call) :
    List.Forall₂ List.Perm (c.run calls).1 (r.run (calls.map Call.op)).1 ∧
      (c.run calls).2.Simulates (r.run (calls.map Call.op)).2 := by
  induction calls generalizing c r with
  | nil => exact ⟨.nil, h⟩
  | cons call calls ih =>
      obtain ⟨hAnswer, hStep⟩ := step_refines h call
      obtain ⟨hAnswers, hRun⟩ := ih hStep
      exact ⟨.cons hAnswer hAnswers, hRun⟩

/-- A cache that was new answers every sequence of calls as the reference does, and its
order lists the keys of its map, each once. -/
theorem refines_lru (capacity : Nat) (calls : List Call) :
    List.Forall₂ List.Perm ((new capacity).run calls).1
        ((Reference.new capacity).run (calls.map Call.op)).1 ∧
      ((new capacity).run calls).2.order.Nodup ∧
      ((new capacity).run calls).2.order.Perm ((new capacity).run calls).2.cache.keys := by
  obtain ⟨hAnswers, hRun⟩ := run_refines (simulates_new capacity) calls
  exact ⟨hAnswers, hRun.order_nodup, hRun.order_perm⟩

end Refinement

section Conservation

open scoped List

/-- The statements that are cached. -/
def statements (c : StatementCache) : List PreparedStatement := c.cache.entries.map Sigma.snd

/-- The statements that a call brings into the cache. -/
def Call.inserted : Call → List PreparedStatement
  | .insert stmt => [stmt]
  | _ => []

/-- The statements that a call hands back to its caller; `get` only lends one. -/
def handed (c : StatementCache) : Call → List PreparedStatement
  | .get _ => []
  | call => (c.step call).1

/-- All that a sequence of calls hands back. -/
def handedBack (c : StatementCache) : List Call → List PreparedStatement
  | [] => []
  | call :: calls => c.handed call ++ (c.step call).2.handedBack calls

/-- An insert under a text that is cached already. -/
def replaces (c : StatementCache) : Call → Bool
  | .insert stmt => stmt.sql ∈ c.cache
  | _ => false

/-- How many inserts of a sequence replace a statement. -/
def replacements (c : StatementCache) : List Call → Nat
  | [] => 0
  | call :: calls => (c.replaces call).toNat + (c.step call).2.replacements calls

variable {c : StatementCache}

theorem length_statements (c : StatementCache) : c.statements.length = c.len := List.length_map _

theorem statements_erase {sql : String} {stmt : PreparedStatement}
    (h : c.cache.lookup sql = some stmt) :
    c.statements.Perm (stmt :: (c.cache.erase sql).entries.map Sigma.snd) := by
  have hMem : (⟨sql, stmt⟩ : Sigma fun _ => PreparedStatement) ∈ c.cache.entries :=
    List.of_mem_dlookup h
  obtain ⟨stmt', before, later, _, hEntries, hErase⟩ :=
    List.exists_of_kerase (List.mem_keys_of_mem hMem)
  have hStmt : stmt = stmt' := c.cache.nodupKeys.eq_of_mk_mem hMem
    (hEntries ▸ List.mem_append_right _ List.mem_cons_self)
  rw [statements, hEntries, show (c.cache.erase sql).entries = before ++ later from hErase, ← hStmt,
    List.map_append, List.map_append, List.map_cons]
  exact List.perm_middle

theorem erase_absent {sql : String} (h : sql ∉ c.cache) :
    (c.cache.erase sql).entries = c.cache.entries :=
  List.kerase_of_notMem_keys h

/-- Evicting hands a statement back unless there is none. -/
theorem evict_statements {r : Lru.Reference String PreparedStatement} (h : c.Simulates r) :
    c.statements.Perm (c.evict.1.toList ++ c.evict.2.statements) ∧
      c.evict.2.len = c.len - 1 ∧ ∀ sql, sql ∉ c.cache → sql ∉ c.evict.2.cache := by
  cases hVictim : r.victim with
  | none =>
      have hLast : c.order.getLast? = none := by rw [h.victim, hVictim]; rfl
      have hEvict : c.evict = (none, c) := by simp only [evict, hLast]
      have hEmpty : c.len = 0 := by
        have hOrder := h.order_perm.length_eq
        rw [List.getLast?_eq_none_iff.mp hLast] at hOrder
        simpa [len, AList.keys, List.keys] using hOrder.symm
      rw [hEvict]
      exact ⟨.refl _, by rw [hEmpty], fun _ => id⟩
  | some item =>
      obtain ⟨c', hEvict, hLater⟩ := h.evict hVictim
      have hLast : c.order.getLast? = some item.key := by rw [h.victim, hVictim]; rfl
      have hStmt : c.cache.lookup item.key = some item.value := by
        have hFirst := congrArg Prod.fst hEvict
        simpa only [evict, hLast] using hFirst
      have hCache : c.evict.2.cache = c.cache.erase item.key := by simp only [evict, hLast]
      have hAll := statements_erase hStmt
      rw [show (c.cache.erase item.key).entries.map Sigma.snd = c.evict.2.statements by
        rw [statements, hCache]] at hAll
      have hFirst : c.evict.1 = some item.value := by rw [hEvict]
      refine ⟨by rw [hFirst]; exact hAll, ?_, ?_⟩
      · have hLength := hAll.length_eq
        rw [List.length_cons, length_statements, length_statements] at hLength
        rw [hLength, Nat.add_sub_cancel]
      · intro sql hOut hIn
        rw [hCache, AList.mem_erase] at hIn
        exact hOut hIn.2

/-- What an insert does to the statements of a cache. -/
theorem insert_statements {r : Lru.Reference String PreparedStatement} (h : c.Simulates r)
    (stmt : PreparedStatement) :
    if stmt.sql ∈ c.cache then
      (c.insert stmt).1 = none ∧ (c.insert stmt).2.len = c.len
    else
      (stmt :: c.statements).Perm ((c.insert stmt).1.toList ++ (c.insert stmt).2.statements) ∧
        (c.insert stmt).2.len = if c.capacity ≤ c.len then c.len - 1 + 1 else c.len + 1 := by
  have hAdded : ∀ (c' : StatementCache) (order : List String), stmt.sql ∉ c'.cache →
      ({ c' with order, cache := c'.cache.insert stmt.sql stmt } : StatementCache).statements =
        stmt :: c'.statements :=
    fun c' order hOut => by
      have hRest := congrArg (List.map Sigma.snd) (erase_absent hOut)
      exact congrArg (stmt :: ·) hRest
  split
  case isTrue hIn =>
      rw [insert_spare fun hCond => hCond.2 hIn]
      refine ⟨rfl, ?_⟩
      obtain ⟨old, hOld⟩ := Option.isSome_iff_exists.mp (AList.lookup_isSome.mpr hIn)
      have hLength := (statements_erase hOld).length_eq
      rw [length_statements, List.length_cons, List.length_map] at hLength
      exact hLength.symm
  case isFalse hOut =>
      by_cases hFull : c.capacity ≤ c.len
      · have hFind : r.find stmt.sql = none := by
          simpa using mt (h.mem_iff stmt.sql).mpr hOut
        obtain ⟨hEvict, hLength, hStays⟩ := evict_statements h
        have hInsert := insert_full ⟨hFull, hOut⟩ (h.retain_eq hFind)
        have hCached : (c.insert stmt).2.statements = stmt :: c.evict.2.statements := by
          rw [hInsert]
          exact hAdded c.evict.2 _ (hStays stmt.sql hOut)
        have hFirst : (c.insert stmt).1 = c.evict.1 := by rw [hInsert]
        rw [if_pos hFull, ← length_statements, hCached, hFirst]
        refine ⟨(hEvict.cons stmt).trans List.perm_middle.symm, ?_⟩
        rw [List.length_cons, length_statements, hLength]
      · have hInsert := insert_spare fun hCond : c.capacity ≤ c.len ∧ stmt.sql ∉ c.cache =>
          hFull hCond.1
        have hCached : (c.insert stmt).2.statements = stmt :: c.statements := by
          rw [hInsert]
          exact hAdded c _ hOut
        have hFirst : (c.insert stmt).1 = none := by rw [hInsert]
        rw [if_neg hFull, ← length_statements, hCached, hFirst]
        exact ⟨.refl _, by rw [List.length_cons, length_statements]⟩

/-- One call: unless it replaces a statement, what was cached or comes in is cached or
handed back afterwards. -/
theorem step_statements {r : Lru.Reference String PreparedStatement} (h : c.Simulates r)
    (call : Call) (hKeeps : c.replaces call = false) :
    (call.inserted ++ c.statements).Perm (c.handed call ++ (c.step call).2.statements) := by
  cases call with
  | get sql =>
      have hSame : (c.get sql).2.cache = c.cache := by
        simp only [get]
        split <;> rfl
      simp only [Call.inserted, handed, step, statements, hSame]
      exact .refl _
  | insert stmt =>
      have hStep := insert_statements h stmt
      rw [if_neg (by simpa [replaces] using hKeeps)] at hStep
      exact hStep.1
  | remove sql =>
      simp only [Call.inserted, handed, step, remove, List.nil_append]
      cases hLookup : c.cache.lookup sql with
      | some stmt => exact statements_erase hLookup
      | none =>
          have hOut : sql ∉ c.cache := AList.lookup_eq_none.mp hLookup
          simp only [statements, erase_absent hOut]
          exact .refl _
  | clear =>
      simp only [Call.inserted, handed, step, clear, List.nil_append]
      exact (List.append_nil _).symm ▸ .refl _

/-- One call: a statement that is replaced is lost. -/
theorem step_count {r : Lru.Reference String PreparedStatement} (h : c.Simulates r)
    (call : Call) :
    call.inserted.length + c.len =
      (c.handed call).length + (c.step call).2.len + (c.replaces call).toNat := by
  cases hReplaces : c.replaces call with
  | false =>
      have hLength := (step_statements h call hReplaces).length_eq
      simpa [length_statements] using hLength
  | true =>
      cases call with
      | insert stmt =>
          have hStep := insert_statements h stmt
          rw [if_pos (by simpa [replaces] using hReplaces)] at hStep
          simp only [Call.inserted, handed, step, hStep.1, hStep.2]
          simp
          omega
      | _ => cases hReplaces

theorem run_count {r : Lru.Reference String PreparedStatement} (h : c.Simulates r)
    (calls : List Call) :
    (calls.flatMap Call.inserted).length + c.len =
      (c.handedBack calls).length + (c.run calls).2.len + c.replacements calls := by
  induction calls generalizing c r with
  | nil => simp [handedBack, run, replacements]
  | cons call calls ih =>
      have hStep := step_count h call
      have hRest := ih (step_refines h call).2
      simp only [List.flatMap_cons, List.length_append, handedBack, run, replacements]
      omega

theorem run_statements {r : Lru.Reference String PreparedStatement} (h : c.Simulates r)
    {calls : List Call} (hKeeps : c.replacements calls = 0) :
    (calls.flatMap Call.inserted ++ c.statements).Perm
      (c.handedBack calls ++ (c.run calls).2.statements) := by
  induction calls generalizing c r with
  | nil => exact .refl _
  | cons call calls ih =>
      obtain ⟨hFirst, hLater⟩ := Nat.add_eq_zero_iff.mp hKeeps
      have hStep := step_statements h call (by simpa using hFirst)
      have hRest := ih (step_refines h call).2 hLater
      simp only [List.flatMap_cons, handedBack, run, List.append_assoc]
      calc call.inserted ++ (calls.flatMap Call.inserted ++ c.statements)
        _ ~ calls.flatMap Call.inserted ++ (call.inserted ++ c.statements) := by
            rw [← List.append_assoc, ← List.append_assoc]
            exact List.perm_append_comm.append_right _
        _ ~ calls.flatMap Call.inserted ++ (c.handed call ++ (c.step call).2.statements) :=
            hStep.append_left _
        _ ~ c.handed call ++ (calls.flatMap Call.inserted ++ (c.step call).2.statements) := by
            rw [← List.append_assoc, ← List.append_assoc]
            exact List.perm_append_comm.append_right _
        _ ~ _ := hRest.append_left _

theorem step_capacity (c : StatementCache) (call : Call) :
    (c.step call).2.capacity = c.capacity := by
  cases call with
  | get sql =>
      simp only [step, get]
      split <;> rfl
  | insert stmt =>
      simp only [step, insert]
      split
      · simp only [evict]
        split <;> rfl
      · rfl
  | remove sql => rfl
  | clear => rfl

theorem step_len {r : Lru.Reference String PreparedStatement} (h : c.Simulates r) {call : Call}
    (hRoom : call.inserted ≠ [] → 1 ≤ c.capacity) (hLen : c.len ≤ c.capacity) :
    (c.step call).2.len ≤ c.capacity := by
  have hCount := step_count h call
  cases call with
  | insert stmt =>
      have hRoom := hRoom (by simp [Call.inserted])
      have hStep := insert_statements h stmt
      simp only [step]
      split at hStep
      · rw [hStep.2]
        exact hLen
      · rw [hStep.2]
        split <;> omega
  | _ =>
      simp only [Call.inserted, List.length_nil] at hCount
      omega

theorem run_len {r : Lru.Reference String PreparedStatement} (h : c.Simulates r)
    {calls : List Call} (hRoom : calls.flatMap Call.inserted ≠ [] → 1 ≤ c.capacity)
    (hLen : c.len ≤ c.capacity) : (c.run calls).2.len ≤ c.capacity := by
  induction calls generalizing c r with
  | nil => exact hLen
  | cons call calls ih =>
      rw [List.flatMap_cons] at hRoom
      have hStep := step_len h (fun hSome : call.inserted ≠ [] => hRoom (by simp [hSome])) hLen
      have hCapacity := step_capacity c call
      rw [← hCapacity] at hStep ⊢
      exact ih (step_refines h call).2 (fun hSome => hCapacity ▸ hRoom (by simp [hSome])) hStep

theorem run_concat (c : StatementCache) (calls : List Call) (call : Call) :
    (c.run (calls ++ [call])).2 = ((c.run calls).2.step call).2 := by
  induction calls generalizing c with
  | nil => rfl
  | cons first calls ih => exact ih _

/-- Nothing is replaced just if every insert finds its text absent. -/
theorem replacements_eq_zero_iff (c : StatementCache) (calls : List Call) :
    c.replacements calls = 0 ↔ ∀ before stmt, before ++ [.insert stmt] <+: calls →
      stmt.sql ∉ (c.run before).2.cache := by
  induction calls generalizing c with
  | nil => exact iff_of_true rfl fun before stmt hPrefix => by simp at hPrefix
  | cons call calls ih =>
      rw [replacements, Nat.add_eq_zero_iff, ih]
      constructor
      · rintro ⟨hFirst, hLater⟩ before stmt hPrefix
        cases before with
        | nil =>
            obtain ⟨rfl, -⟩ := List.cons_prefix_cons.mp hPrefix
            simpa [replaces, run] using hFirst
        | cons first before =>
            obtain ⟨hHead, hRest⟩ := List.cons_prefix_cons.mp hPrefix
            subst hHead
            exact hLater before stmt hRest
      · intro h
        refine ⟨?_, fun before stmt hPrefix =>
          h (call :: before) stmt (List.cons_prefix_cons.mpr ⟨rfl, hPrefix⟩)⟩
        cases call with
        | insert stmt =>
            have hOut := h [] stmt (List.cons_prefix_cons.mpr ⟨rfl, List.nil_prefix⟩)
            simpa [replaces, run] using hOut
        | _ => rfl

/-- Every statement inserted is cached or was handed back, once, and there is room for
what is cached. -/
structure Conserved (capacity : Nat) (calls : List Call) : Prop where
  statements : (calls.flatMap Call.inserted).Perm
    ((new capacity).handedBack calls ++ ((new capacity).run calls).2.statements)
  len : ((new capacity).run calls).2.len ≤ capacity

/-- The cache conserves statements all along just if its capacity is not zero where
something is inserted and nothing is inserted under a text that is cached. -/
theorem conserved_iff (capacity : Nat) (calls : List Call) :
    (∀ before, before <+: calls → Conserved capacity before) ↔
      ∀ before stmt, before ++ [.insert stmt] <+: calls →
        1 ≤ capacity ∧ stmt.sql ∉ ((new capacity).run before).2.cache := by
  have hNew := simulates_new capacity
  constructor
  · intro h before stmt hPrefix
    have hConserved := h _ hPrefix
    have hCount := run_count hNew (before ++ [.insert stmt])
    have hLength := hConserved.statements.length_eq
    rw [List.length_append, length_statements] at hLength
    rw [hLength, show (new capacity).len = 0 from rfl] at hCount
    have hNone : (new capacity).replacements (before ++ [.insert stmt]) = 0 := by omega
    have hOut := (replacements_eq_zero_iff _ _).mp hNone before stmt (List.prefix_refl _)
    refine ⟨?_, hOut⟩
    have hStep := insert_statements (run_refines hNew before).2 stmt
    rw [if_neg hOut] at hStep
    have hLen := hConserved.len
    rw [run_concat] at hLen
    simp only [step, hStep.2] at hLen
    split at hLen <;> omega
  · rintro h before hPrefix
    have hNone : (new capacity).replacements before = 0 :=
      (replacements_eq_zero_iff _ _).mpr fun first stmt hFirst =>
        (h first stmt (hFirst.trans hPrefix)).2
    refine ⟨?_, run_len hNew ?_ (Nat.zero_le _)⟩
    · simpa [statements, new] using run_statements hNew hNone
    · intro hSome
      obtain ⟨stmt, hMem⟩ := List.exists_mem_of_ne_nil _ hSome
      obtain ⟨call, hCall, hStmt⟩ := List.mem_flatMap.mp hMem
      obtain ⟨first, later, rfl⟩ := List.append_of_mem hCall
      cases call with
      | insert stmt' =>
          refine (h first stmt' (List.IsPrefix.trans ?_ hPrefix)).1
          exact ⟨later, by simp⟩
      | _ => cases hStmt

/-- A statement that is inserted again under its text is lost without a trace. -/
theorem not_conserved :
    ¬ ∀ capacity calls, Conserved capacity calls := by
  intro h
  have hPrepared := (h 2 [.insert ⟨"s1", "SELECT 1", [], []⟩,
    .insert ⟨"s2", "SELECT 1", [], []⟩]).statements.length_eq
  exact absurd hPrepared (by decide)

end Conservation

end StatementCache
end PgClient
