import Mathlib
import Laminar.Workspace

/-!
# Registries and their histories

A registry is a table in order of entry, and a workspace has any number of them.  What a registry
holds is a matter of what was done to it: which generators were registered there, which names were
removed, and, for a copy, what had been done to the registry it was copied from.  The history says
all of it.

Both sides are computed: the workspace runs its commands, and a log is kept for each registry.  That
they agree is an invariant of one step, carried along any series of steps.

* `History.found?`: what the latest event under a name leaves there.
* `History.EnteredAt`: the time at which a name that is present came in, that is, its first
  registration since it was last absent.
* `Registry.Reflects r h`: the registry is what the history says, names in order of entry included.
  One event preserves it (`Registry.Reflects.change`).
* `Workspace.perform` runs a series of registry commands, `histories` keeps the logs.
* `Workspace.perform_reflects_histories`: **after any series of commands on any number of registries
  each registry reflects its history**, a copy starts equal to its source, and a command on one
  registry leaves every other one alone.
-/

namespace Laminar

/-! ### Histories -/

/-- Something that happens to a registry. -/
inductive RegistryEvent where
  | register (g : Generator)
  | unregister (name : String)

namespace RegistryEvent

/-- The name that an event is about. -/
def name : RegistryEvent → String
  | register g => g.name
  | unregister n => n

/-- What an event leaves under its name. -/
def leaves : RegistryEvent → Option Generator
  | register g => some g
  | unregister _ => none

end RegistryEvent

/-- What happened to a registry, in order. -/
abbrev History := List RegistryEvent

namespace History

/-- The generator under a name: the latest event under it decides. -/
def found? (h : History) (name : String) : Option Generator :=
  (h.reverse.find? (·.name == name)).bind (·.leaves)

/-- **Time of entry.** The name was registered at time `i`, it was absent just before, and it has
not been removed since. -/
def EnteredAt (h : History) (name : String) (i : ℕ) : Prop :=
  (∃ g, h[i]? = some (.register g) ∧ g.name = name) ∧ found? (h.take i) name = none ∧
    .unregister name ∉ h.drop (i + 1)

variable {h : History} {e : RegistryEvent} {name : String} {i : ℕ}

/-- The latest event decides about its own name and about no other. -/
theorem found?_concat (h : History) (e : RegistryEvent) (name : String) :
    found? (h ++ [e]) name = if e.name = name then e.leaves else found? h name := by
  by_cases he : e.name = name <;> simp [found?, he]

theorem EnteredAt.lt_length (hi : EnteredAt h name i) : i < h.length := by
  obtain ⟨⟨g, hg, -⟩, -, -⟩ := hi
  exact (List.getElem?_eq_some_iff.1 hg).1

/-- **One more event.** A name that had come in stays in, unless it is removed, and nothing comes in
but an absent name that is registered. -/
theorem enteredAt_concat : EnteredAt (h ++ [e]) name i ↔
    EnteredAt h name i ∧ e ≠ .unregister name ∨
      i = h.length ∧ found? h name = none ∧ ∃ g, e = .register g ∧ g.name = name := by
  rcases lt_trichotomy i h.length with hi | rfl | hi
  · have htake : (h ++ [e]).take i = h.take i := List.take_append_of_le_length hi.le
    have hdrop : (h ++ [e]).drop (i + 1) = h.drop (i + 1) ++ [e] :=
      List.drop_append_of_le_length hi
    simp only [EnteredAt, htake, hdrop, List.getElem?_append_left hi, List.mem_append,
      List.mem_singleton, hi.ne, false_and, or_false]
    tauto
  · have hold : ¬ EnteredAt h name h.length := fun hi => lt_irrefl _ hi.lt_length
    rw [or_iff_right fun h' => hold h'.1]
    simp only [EnteredAt, true_and, List.take_left, List.getElem?_concat_length, Option.some.injEq]
    simp [and_comm]
  · have hold : ¬ EnteredAt h name i := fun h' => hi.not_gt h'.lt_length
    have hnew : ¬ EnteredAt (h ++ [e]) name i := by
      intro h'
      have hlen := h'.lt_length
      rw [List.length_append, List.length_singleton] at hlen
      omega
    simp [hold, hnew, hi.ne']

end History

/-! ### Registries that reflect a history -/

namespace Registry

/-- What an event does to a registry. -/
def change (r : Registry) : RegistryEvent → Registry
  | .register g => r.register g
  | .unregister name => r.erase name

/-- A name that is present keeps its place, an absent one comes in at the end. -/
theorem names_register (r : Registry) (g : Generator) :
    (r.register g).names = if g.name ∈ r.names then r.names else r.names ++ [g.name] :=
  map_fst_setEntry g.name g r.entries

/-- A name that is removed leaves the others in their order. -/
theorem names_erase (r : Registry) (name : String) :
    (r.erase name).names = r.names.filter (· != name) := by
  simp only [Table.erase, Table.names, List.filter_map]
  rfl

theorem get?_change (r : Registry) (e : RegistryEvent) (name : String) :
    (r.change e).get? name = if e.name = name then e.leaves else r.get? name := by
  cases e with
  | register g => exact get?_register r g name
  | unregister n => exact Table.get?_erase r n name

/-- **What a history says about a registry**: no name stands twice, a name leads to what the history
leaves there, the names are those that came in and have stayed, and they stand in the order in which
they came in. -/
structure Reflects (r : Registry) (h : History) : Prop where
  nodup : r.names.Nodup
  lookup : ∀ name, r.lookup (.str name) = .ok (h.found? name)
  present : ∀ name, name ∈ r.names ↔ ∃ i, h.EnteredAt name i
  order : r.names.Pairwise fun a b => ∀ i j, h.EnteredAt a i → h.EnteredAt b j → i < j

namespace Reflects

variable {r : Registry} {h : History}

theorem empty : Reflects Table.empty [] where
  nodup := List.nodup_nil
  lookup _ := rfl
  present name := by simp [Table.names, Table.empty, History.EnteredAt]
  order := List.Pairwise.nil

theorem get? (hr : r.Reflects h) (name : String) : r.get? name = h.found? name :=
  Except.ok.inj (hr.lookup name)

/-- A name is listed exactly when the history leaves something there. -/
theorem mem_names_iff (hr : r.Reflects h) (name : String) :
    name ∈ r.names ↔ (h.found? name).isSome := by
  rw [← hr.get? name, r.isSome_get?_iff name]

/-- Registering a name that is present changes no time of entry. -/
theorem enteredAt_of_mem (hr : r.Reflects h) {g : Generator} (hg : g.name ∈ r.names) (name : String)
    (i : ℕ) : History.EnteredAt (h ++ [.register g]) name i ↔ h.EnteredAt name i := by
  rw [History.enteredAt_concat]
  constructor
  · rintro (⟨hi, -⟩ | ⟨-, hnone, g', hg', rfl⟩)
    · exact hi
    · obtain rfl := RegistryEvent.register.inj hg'
      have hsome := (hr.mem_names_iff _).1 hg
      rw [hnone] at hsome
      cases hsome
  · exact fun hi => .inl ⟨hi, nofun⟩

/-- An absent name that is registered comes in last. -/
theorem enteredAt_of_not_mem (hr : r.Reflects h) {g : Generator} (hg : g.name ∉ r.names)
    (name : String) (i : ℕ) : History.EnteredAt (h ++ [.register g]) name i ↔
      h.EnteredAt name i ∨ name = g.name ∧ i = h.length := by
  have hnone : h.found? g.name = none := by
    rwa [hr.mem_names_iff, Option.not_isSome_iff_eq_none] at hg
  rw [History.enteredAt_concat]
  constructor
  · rintro (⟨hi, -⟩ | ⟨rfl, -, g', hg', rfl⟩)
    · exact .inl hi
    · obtain rfl := RegistryEvent.register.inj hg'
      exact .inr ⟨rfl, rfl⟩
  · rintro (hi | ⟨rfl, rfl⟩)
    · exact .inl ⟨hi, nofun⟩
    · exact .inr ⟨rfl, hnone, g, rfl, rfl⟩

/-- Removing a name takes its time of entry away and no other. -/
theorem enteredAt_unregister (removed name : String) (i : ℕ) :
    History.EnteredAt (h ++ [.unregister removed]) name i ↔
      h.EnteredAt name i ∧ name ≠ removed := by
  simp [History.enteredAt_concat, eq_comm]

/-- What is found after one more event. -/
theorem lookup_change (hr : r.Reflects h) (e : RegistryEvent) (name : String) :
    (r.change e).lookup (.str name) = .ok (History.found? (h ++ [e]) name) := by
  rw [lookup_str, get?_change, hr.get?, History.found?_concat]

theorem register_of_mem (hr : r.Reflects h) {g : Generator} (hg : g.name ∈ r.names) :
    (r.register g).Reflects (h ++ [.register g]) := by
  have hnames : (r.register g).names = r.names := by rw [names_register, if_pos hg]
  refine ⟨(r.register g).nodup, hr.lookup_change (.register g), fun name => ?_, ?_⟩
  · simp only [hnames, hr.present name, hr.enteredAt_of_mem hg]
  · simpa only [hnames, hr.enteredAt_of_mem hg] using hr.order

theorem register_of_not_mem (hr : r.Reflects h) {g : Generator} (hg : g.name ∉ r.names) :
    (r.register g).Reflects (h ++ [.register g]) := by
  have hnames : (r.register g).names = r.names ++ [g.name] := by rw [names_register, if_neg hg]
  refine ⟨(r.register g).nodup, hr.lookup_change (.register g), fun name => ?_, ?_⟩
  · simp only [hnames, hr.enteredAt_of_not_mem hg, List.mem_append, List.mem_singleton,
      hr.present name, exists_or, exists_and_left, exists_eq, and_true]
  · rw [hnames, List.pairwise_append]
    refine ⟨hr.order.imp_of_mem ?_, List.pairwise_singleton _ _, ?_⟩
    · -- names that were there before came in when they did
      intro a b ha hb hab i j hi hj
      have hold : ∀ {c k}, c ∈ r.names → History.EnteredAt (h ++ [.register g]) c k →
          h.EnteredAt c k := fun hc hk =>
        ((hr.enteredAt_of_not_mem hg _ _).1 hk).resolve_right fun heq => hg (heq.1 ▸ hc)
      exact hab i j (hold ha hi) (hold hb hj)
    · -- and all of them before the new one
      intro a ha b hb i j hi hj
      obtain rfl := List.mem_singleton.1 hb
      rcases (hr.enteredAt_of_not_mem hg _ _).1 hi with hi | ⟨rfl, -⟩
      · rcases (hr.enteredAt_of_not_mem hg _ _).1 hj with hj | ⟨-, rfl⟩
        · exact absurd ((hr.present _).2 ⟨j, hj⟩) hg
        · exact hi.lt_length
      · exact absurd ha hg

theorem erase (hr : r.Reflects h) (name : String) :
    Reflects (r.erase name) (h ++ [.unregister name]) := by
  refine ⟨(r.erase name).nodup, hr.lookup_change (.unregister name), fun other => ?_, ?_⟩
  · simp only [names_erase, enteredAt_unregister, List.mem_filter, hr.present other, bne_iff_ne,
      exists_and_right]
  · rw [names_erase]
    refine (hr.order.filter _).imp ?_
    intro a b hab i j hi hj
    exact hab i j (enteredAt_unregister _ _ _ |>.1 hi).1 (enteredAt_unregister _ _ _ |>.1 hj).1

/-- **One event.** A registry that reflects its history goes on doing so. -/
theorem change (hr : r.Reflects h) (e : RegistryEvent) : (r.change e).Reflects (h ++ [e]) := by
  cases e with
  | register g =>
    by_cases hg : g.name ∈ r.names
    · exact hr.register_of_mem hg
    · exact hr.register_of_not_mem hg
  | unregister name => exact hr.erase name

end Reflects

end Registry

/-! ### Commands on registries -/

/-- A command on the registries of a workspace. -/
inductive RegistryCommand where
  /-- A new registry without generators. -/
  | create (name : String)
  | copy (name : String) (source : RegistryId)
  | register (target : RegistryId) (g : Generator)
  | unregister (target : RegistryId) (name : String)

namespace RegistryCommand

/-- The registry that a command changes, if it does not make a new one. -/
def target? : RegistryCommand → Option RegistryId
  | create _ => none
  | copy _ _ => none
  | register target _ => some target
  | unregister target _ => some target

end RegistryCommand

namespace Workspace

/-- Let a command work on a registry. -/
def onRegistry {α : Type} (id : RegistryId) (c : Command α) : Command α := do
  modify fun w => { w with current := id }
  c

/-- Run a command on registries. -/
def obey : RegistryCommand → Command Unit
  | .create name => addRegistry name Table.empty
  | .copy name source => onRegistry source do addRegistry name (← get).currentRegistry
  | .register target g => onRegistry target (register g)
  | .unregister target name => onRegistry target do discard (unregister (.str name))

/-- The workspace after a series of commands on registries. -/
def perform (w : Workspace) (commands : List RegistryCommand) : Workspace :=
  commands.foldl (fun w c => ((obey c).run w).2) w

end Workspace

/-- The logs after one command: a copy takes over the log of its source. -/
def record (logs : List History) : RegistryCommand → List History
  | .create _ => logs ++ [[]]
  | .copy _ source => logs ++ [logs.getD source []]
  | .register target g => logs.modify target (· ++ [.register g])
  | .unregister target name => logs.modify target (· ++ [.unregister name])

/-- The histories of the registries that a series of commands makes. -/
def histories (commands : List RegistryCommand) : List History := commands.foldl record []

namespace Workspace

variable {w : Workspace} {logs : List History} {id : RegistryId}

theorem perform_concat (w : Workspace) (commands : List RegistryCommand) (c : RegistryCommand) :
    w.perform (commands ++ [c]) = (w.perform commands).perform [c] :=
  List.foldl_append

/-! ### What one command does -/

theorem registries_create (w : Workspace) (name : String) :
    (w.perform [.create name]).registries = w.registries ++ [Table.empty] := rfl

theorem registries_copy (w : Workspace) (name : String) (source : RegistryId) :
    (w.perform [.copy name source]).registries = w.registries ++ [w.registry source] := rfl

theorem registries_register (w : Workspace) (target : RegistryId) (g : Generator) :
    (w.perform [.register target g]).registries =
      w.registries.set target ((w.registry target).register g) := rfl

theorem registries_unregister (w : Workspace) (target : RegistryId) (name : String) :
    (w.perform [.unregister target name]).registries =
      w.registries.set target ((w.registry target).erase name) := rfl

theorem registry_eq_getElem? (w : Workspace) (id : RegistryId) :
    w.registry id = w.registries[id]?.getD Table.empty :=
  List.getD_eq_getElem?_getD ..

/-- What happens to a registry that a registration is addressed to. -/
theorem registry_register (g : Generator) (hid : id < w.registries.length) :
    (w.perform [.register id g]).registry id = (w.registry id).register g := by
  rw [registry_eq_getElem?, registries_register, List.getElem?_set_self hid, Option.getD_some]

/-- What happens to a registry that a removal is addressed to. -/
theorem registry_unregister (name : String) (hid : id < w.registries.length) :
    (w.perform [.unregister id name]).registry id = (w.registry id).erase name := by
  rw [registry_eq_getElem?, registries_unregister, List.getElem?_set_self hid, Option.getD_some]

/-- A copy starts equal to its source. -/
theorem registry_copy (w : Workspace) (name : String) (source : RegistryId) :
    (w.perform [.copy name source]).registry w.registries.length = w.registry source := by
  rw [registry_eq_getElem?, registries_copy, List.getElem?_concat_length, Option.getD_some]

/-- No command takes a registry away. -/
theorem length_le_perform_singleton (w : Workspace) (c : RegistryCommand) :
    w.registries.length ≤ (w.perform [c]).registries.length := by
  cases c with
  | create name => simp [registries_create]
  | copy name source => simp [registries_copy]
  | register target g => simp [registries_register]
  | unregister target name => simp [registries_unregister]

/-- **One command leaves every registry alone that it is not addressed to.** -/
theorem registry_perform_singleton {c : RegistryCommand} (hid : id < w.registries.length)
    (hc : c.target? ≠ some id) : (w.perform [c]).registry id = w.registry id := by
  rw [registry_eq_getElem?, registry_eq_getElem?]
  cases c with
  | create name => rw [registries_create, List.getElem?_append_left hid]
  | copy name source => rw [registries_copy, List.getElem?_append_left hid]
  | register target g =>
    have hne : target ≠ id := fun h => hc (congrArg some h)
    rw [registries_register, List.getElem?_set_ne hne]
  | unregister target name =>
    have hne : target ≠ id := fun h => hc (congrArg some h)
    rw [registries_unregister, List.getElem?_set_ne hne]

/-- Nor does any series of commands that are addressed elsewhere change it. -/
theorem registry_perform {commands : List RegistryCommand} (hid : id < w.registries.length)
    (hc : ∀ c ∈ commands, c.target? ≠ some id) :
    (w.perform commands).registry id = w.registry id := by
  induction commands generalizing w with
  | nil => rfl
  | cons c rest ih =>
    have hid' : id < (w.perform [c]).registries.length :=
      hid.trans_le (length_le_perform_singleton w c)
    calc (w.perform (c :: rest)).registry id
        = ((w.perform [c]).perform rest).registry id := rfl
      _ = (w.perform [c]).registry id := ih hid' fun d hd => hc d (List.mem_cons_of_mem _ hd)
      _ = w.registry id := registry_perform_singleton hid (hc c List.mem_cons_self)

/-! ### Workspaces and logs -/

/-- There is a log for each registry, and each registry reflects its log. -/
structure Tracks (w : Workspace) (logs : List History) : Prop where
  length_eq : w.registries.length = logs.length
  reflects : ∀ id, (w.registry id).Reflects (logs.getD id [])

namespace Tracks

/-- A registry that is added comes with its log. -/
theorem append (ht : w.Tracks logs) {w' : Workspace} {r : Registry} {h : History}
    (hw : w'.registries = w.registries ++ [r]) (hr : r.Reflects h) : w'.Tracks (logs ++ [h]) := by
  refine ⟨by simp [hw, ht.length_eq], fun id => ?_⟩
  rw [registry_eq_getElem?, hw, List.getD_eq_getElem?_getD]
  rcases lt_trichotomy id logs.length with hid | rfl | hid
  · rw [List.getElem?_append_left (ht.length_eq ▸ hid), List.getElem?_append_left hid,
      ← registry_eq_getElem?, ← List.getD_eq_getElem?_getD]
    exact ht.reflects id
  · simpa [← ht.length_eq] using hr
  · rw [List.getElem?_eq_none (by simp [ht.length_eq]; omega),
      List.getElem?_eq_none (by simp; omega)]
    exact .empty

/-- A registry that is changed has the event in its log. -/
theorem change (ht : w.Tracks logs) {w' : Workspace} {target : RegistryId} {e : RegistryEvent}
    (hw : w'.registries = w.registries.set target ((w.registry target).change e)) :
    w'.Tracks (logs.modify target (· ++ [e])) := by
  refine ⟨by simp [hw, ht.length_eq], fun id => ?_⟩
  have hlog := ht.reflects id
  rw [registry_eq_getElem?, List.getD_eq_getElem?_getD] at hlog
  rw [registry_eq_getElem?, hw, List.getD_eq_getElem?_getD]
  by_cases hid : target = id
  · subst hid
    by_cases hlen : target < logs.length
    · rw [List.getElem?_set_self (ht.length_eq ▸ hlen), registry_eq_getElem?]
      simpa [hlen] using hlog.change e
    · -- there is no such registry, so nothing is changed
      have hlen' : ¬ target < w.registries.length := ht.length_eq ▸ hlen
      simpa [hlen, hlen'] using hlog
  · simpa [hid] using hlog

/-- **One command.** A workspace that is tracked goes on being so. -/
theorem perform_singleton (ht : w.Tracks logs) (c : RegistryCommand) :
    (w.perform [c]).Tracks (record logs c) := by
  cases c with
  | create name => exact ht.append (registries_create w name) .empty
  | copy name source => exact ht.append (registries_copy w name source) (ht.reflects source)
  | register target g => exact ht.change (registries_register w target g)
  | unregister target name => exact ht.change (registries_unregister w target name)

/-- **Any series of commands**, by induction from its end. -/
theorem perform (w : Workspace) (commands : List RegistryCommand) :
    Tracks (Workspace.perform { w with registries := [] } commands) (histories commands) := by
  induction commands using List.reverseRecOn with
  | nil => exact ⟨rfl, fun _ => .empty⟩
  | append_singleton commands c ih =>
    rw [perform_concat, histories, List.foldl_append]
    exact ih.perform_singleton c

end Tracks

/-- **The law of registries.** Start without registries and run any series of commands.  Then each
registry is what its history says, where a copy takes over the history of its source.  So replacing
a generator leaves its name in its place, and a name that is removed and registered again stands at
the end.  A copy is equal to its source, and commands that are addressed to other registries, the
source of a copy or the copy itself among them, change nothing. -/
theorem perform_reflects_histories (w : Workspace) (commands : List RegistryCommand) :
    let stored := Workspace.perform { w with registries := [] } commands
    (∀ id, (stored.registry id).Reflects ((histories commands).getD id [])) ∧
    (∀ id < stored.registries.length, ∀ g : Generator,
      (g.name ∈ (stored.registry id).names →
        ((stored.perform [.register id g]).registry id).names = (stored.registry id).names) ∧
      ((stored.perform [.unregister id g.name, .register id g]).registry id).names =
        (stored.registry id).names.filter (· != g.name) ++ [g.name]) ∧
    (∀ name source, (stored.perform [.copy name source]).registry stored.registries.length =
      stored.registry source) ∧
    (∀ id < stored.registries.length, ∀ later : List RegistryCommand,
      (∀ c ∈ later, c.target? ≠ some id) →
        (stored.perform later).registry id = stored.registry id) := by
  intro stored
  have htracks : stored.Tracks (histories commands) := .perform w commands
  refine ⟨htracks.reflects, fun id hid g => ⟨fun hg => ?_, ?_⟩,
    fun name source => registry_copy stored name source,
    fun id hid later hlater => registry_perform hid hlater⟩
  · rw [registry_register g hid, Registry.names_register, if_pos hg]
  · have hid' : id < (stored.perform [.unregister id g.name]).registries.length :=
      hid.trans_le (length_le_perform_singleton stored _)
    have hgone : g.name ∉ (stored.registry id).names.filter (· != g.name) := by simp
    calc ((stored.perform [.unregister id g.name, .register id g]).registry id).names
        = (((stored.perform [.unregister id g.name]).registry id).register g).names :=
          congrArg Table.names (registry_register g hid')
      _ = (Registry.register ((stored.registry id).erase g.name) g).names := by
          rw [registry_unregister g.name hid]
      _ = (stored.registry id).names.filter (· != g.name) ++ [g.name] := by
          rw [Registry.names_register, Registry.names_erase, if_neg hgone]

/-- A registry with two names, a copy of it, and then the first name removed and registered again in
the source. -/
def trial : List RegistryCommand :=
  [.create "main", .register 0 ⟨"dot", .primitive .dot⟩, .register 0 ⟨"add", .primitive .add⟩,
    .copy "trial" 0, .unregister 0 "dot", .register 0 ⟨"dot", .primitive .dot⟩]

/-- The source has the name at its end, the copy has it in its old place, and what is done to the
source later does not reach the copy. -/
theorem perform_reflects_histories_trial :
    let stored := Workspace.perform { registries := [] } trial
    (stored.registry 0).names = ["add", "dot"] ∧ (stored.registry 1).names = ["dot", "add"] ∧
      1 < stored.registries.length ∧
      (stored.perform [.unregister 0 "add"]).registry 1 = stored.registry 1 :=
  ⟨rfl, rfl, by decide, (perform_reflects_histories {} trial).2.2.2 1 (by decide)
    [.unregister 0 "add"] (by simp [RegistryCommand.target?])⟩

end Workspace

end Laminar
