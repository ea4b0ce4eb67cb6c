import XelisWallet.NativeError
import XelisWallet.Permissions
import XelisWallet.RegistryExact

/-!
Permission updates through session references.

A call of `modify_application_permissions` resolves its reference under the lock of the registry
and keeps the `Arc` it got. Later it looks for that very state among the applications of the
server and of the relayer, and changes the table of the one it found. Any number of calls run
beside each other and beside everything else that uses the registries; a state whose `Arc` a
call holds is not freed.
-/

namespace XelisWallet.Permissions

open Runs NativeError Registry SessionLedger SessionHistory RegistrySim RegistryExact
open RegistryWorld hiding step

def invalidXswdSessionReference : NativeXelisError :=
  .flutter .conflict SessionReferenceError.invalid.code
    "The XSWD session reference is stale, detached, or belongs to another wallet"

def xswdPermissionUpdateFailed (message : String) : NativeXelisError :=
  .wallet .operationFailed "XSWD_PERMISSION_UPDATE_FAILED" message

/-- How a call ends. -/
inductive Outcome
  | returned (result : Except NativeXelisError Unit)
  | panicked (message : String)

def Outcome.of : Except Failure Unit → Outcome
  | .ok () => .returned (.ok ())
  | .error (.bail message) => .returned (.error (xswdPermissionUpdateFailed message))
  | .error (.panic message) => .panicked message

/-- A call that has resolved its reference: the registry it asked and the `Arc` it got. -/
structure Call where
  registry : ℕ
  sessionRef : ℕ
  target : ℕ
  permissions : PermissionUpdates

/-- The registries, the permissions of each state behind its own lock, and the calls. -/
structure Calls where
  world : World
  tables : ℕ → PermissionTable
  calls : ℕ → Option Call

def Calls.init : Calls := ⟨World.init, fun _ => ∅, fun _ => none⟩

inductive Action
  /-- Any other use of a registry, the end of a state or a new one. -/
  | registry (op : Op)
  /-- The permissions of a state are changed by something else. -/
  | edit (i : ℕ) (table : PermissionTable)
  | resolve (c k sessionRef : ℕ) (late : List ℕ) (permissions : PermissionUpdates)
  /-- The applications of the server and of the relayer, if there is one. -/
  | modify (c : ℕ) (server relayer : Option (List ℕ))
  /-- The future is dropped. -/
  | drop (c : ℕ)

/-- What is seen of a step. -/
inductive Report
  | registry (event : Event)
  | edited (i : ℕ)
  | resolved (c : ℕ) (event : Event) (refused : Option Outcome)
  | modified (c : ℕ) (outcome : Outcome)
  | dropped (c : ℕ)

def Report.event : Report → Option Event
  | .registry event | .resolved _ event _ => some event
  | _ => none

/-- What happened to the registries. -/
def events (reports : List Report) : List Event := reports.filterMap Report.event

namespace Calls

/-- The state that `resolve` upgrades to. -/
def target (w : World) (k sessionRef : ℕ) (late : List ℕ) : Option ℕ :=
  ((w.registries k).resolve (alive w.heap) (alive (dropAll w.heap late)) sessionRef).1

/-- Under the lock of the state at an address. -/
def modifyAppPermissions (s : Calls) (app : ℕ) (permissions : PermissionUpdates) :
    Option (Outcome × (ℕ → PermissionTable)) :=
  (s.world.heap app).map fun cell =>
    let p := applyPermissionUpdates (s.tables cell.id) permissions
    (Outcome.of p.1, Function.update s.tables cell.id p.2)

/-- From the lock of the server on. -/
def modifyApplicationPermissions (s : Calls) (call : Call) (server relayer : Option (List ℕ)) :
    Option (Outcome × (ℕ → PermissionTable)) :=
  match server.bind (List.find? (· = call.target)) with
  | some app => s.modifyAppPermissions app call.permissions
  | none =>
    match relayer.bind (List.find? (· = call.target)) with
    | some app => s.modifyAppPermissions app call.permissions
    | none => some (.returned (.error invalidXswdSessionReference), s.tables)

def step (s : Calls) : Action → Option (Calls × Report)
  | .registry op =>
    (RegistryWorld.step s.world op).map fun p => ({ s with world := p.1 }, .registry p.2)
  | .edit i table => some ({ s with tables := Function.update s.tables i table }, .edited i)
  | .resolve c k sessionRef late permissions =>
    if (s.calls c).isSome then none
    else
      (RegistryWorld.step s.world (.resolve k sessionRef late)).map fun p =>
        match target s.world k sessionRef late with
        | some a =>
          ({ s with
              world := p.1
              calls := Function.update s.calls c (some ⟨k, sessionRef, a, permissions⟩) },
            .resolved c p.2 none)
        | none =>
          ({ s with world := p.1 },
            .resolved c p.2 (some (.returned (.error invalidXswdSessionReference))))
  | .modify c server relayer =>
    (s.calls c).bind fun call =>
      (s.modifyApplicationPermissions call server relayer).map fun p =>
        ({ s with tables := p.2, calls := Function.update s.calls c none }, .modified c p.1)
  | .drop c =>
    if (s.calls c).isSome then
      some ({ s with calls := Function.update s.calls c none }, .dropped c)
    else none

/-- A call holds an `Arc` of the state at this address. -/
def Held (s : Calls) (a : ℕ) : Prop := ∃ c call, s.calls c = some call ∧ call.target = a

end Calls

/-- The addresses whose last `Arc` an operation drops. -/
def opDrops : Op → List ℕ
  | .drop a => [a]
  | .resolve _ _ late => late
  | _ => []

def Action.drops : Action → List ℕ
  | .registry op => opDrops op
  | .resolve _ _ _ late _ => late
  | _ => []

/-- Permission updates as a transition system. An `Arc` keeps its state, a `Weak` its address. -/
def permissionUpdates : System Calls Report where
  init s := s = Calls.init
  step s report s' := ∃ action, (∀ a ∈ action.drops, ¬ s.Held a) ∧
    (∀ a, action = .registry (.create a) → ¬ Reserved s.world a) ∧
    s.step action = some (s', report)

/-! ### What a step can do -/

section Steps

variable {s s' : Calls} {reports : List Report} {report : Report} {w w' : World} {op : Op}
  {event : Event} {a i k r : ℕ}

lemma step_heap (h : RegistryWorld.step w op = some (w', event)) (ha : w.heap a = some ⟨i, true⟩)
    (hkept : a ∉ opDrops op) : w'.heap a = some ⟨i, true⟩ := by
  have hdrop : dropAll w.heap (opDrops op) a = some ⟨i, true⟩ := (if_neg hkept).trans ha
  cases op with
  | create b =>
    simp only [RegistryWorld.step] at h
    split at h
    · cases h
    rename_i hdead
    cases h
    have hne : a ≠ b := by
      rintro rfl
      exact hdead (by simp [alive, ha])
    exact (Function.update_of_ne hne ..).trans ha
  | drop =>
    simp only [RegistryWorld.step] at h
    split at h <;> cases h
    exact hdrop
  | resolve =>
    cases h
    exact hdrop
  | project | register | invalidate =>
    simp only [RegistryWorld.step] at h
    split at h <;> cases h
    exact ha
  | clear =>
    cases h
    exact ha

/-- A step as the facts it rests on. -/
inductive Moves (s : Calls) : Report → Calls → Prop
  | registry {op : Op} {w : World} {event : Event} (hheld : ∀ a ∈ opDrops op, ¬ s.Held a)
      (hfree : ∀ a, op = .create a → ¬ Reserved s.world a)
      (hop : RegistryWorld.step s.world op = some (w, event)) :
      Moves s (.registry event) { s with world := w }
  | edit (i : ℕ) (table : PermissionTable) :
      Moves s (.edited i) { s with tables := Function.update s.tables i table }
  | resolve {c k r : ℕ} {late : List ℕ} {permissions : PermissionUpdates} {w : World}
      {event : Event} {a : ℕ} (hheld : ∀ a ∈ opDrops (.resolve k r late), ¬ s.Held a)
      (hop : RegistryWorld.step s.world (.resolve k r late) = some (w, event))
      (ha : Calls.target s.world k r late = some a) :
      Moves s (.resolved c event none)
        { s with world := w, calls := Function.update s.calls c (some ⟨k, r, a, permissions⟩) }
  | refuse {c k r : ℕ} {late : List ℕ} {w : World} {event : Event} {outcome : Outcome}
      (hheld : ∀ a ∈ opDrops (.resolve k r late), ¬ s.Held a)
      (hop : RegistryWorld.step s.world (.resolve k r late) = some (w, event)) :
      Moves s (.resolved c event (some outcome)) { s with world := w }
  | modify {c : ℕ} {call : Call} {cell : Cell} (hc : s.calls c = some call)
      (hcell : s.world.heap call.target = some cell) :
      Moves s (.modified c (.of (applyPermissionUpdates (s.tables cell.id) call.permissions).1))
        { s with
          tables := Function.update s.tables cell.id
            (applyPermissionUpdates (s.tables cell.id) call.permissions).2
          calls := Function.update s.calls c none }
  | missing {c : ℕ} {call : Call} (hc : s.calls c = some call) :
      Moves s (.modified c (.returned (.error invalidXswdSessionReference)))
        { s with calls := Function.update s.calls c none }
  | drop {c : ℕ} : Moves s (.dropped c) { s with calls := Function.update s.calls c none }

lemma find_target {apps : Option (List ℕ)} {target app : ℕ}
    (h : apps.bind (List.find? (· = target)) = some app) : app = target := by
  obtain ⟨l, -, hl⟩ := Option.bind_eq_some_iff.mp h
  simpa using List.find?_some hl

lemma modifyApplicationPermissions_cases (s : Calls) (call : Call)
    (server relayer : Option (List ℕ)) :
    s.modifyApplicationPermissions call server relayer =
      s.modifyAppPermissions call.target call.permissions ∨
    s.modifyApplicationPermissions call server relayer =
      some (.returned (.error invalidXswdSessionReference), s.tables) := by
  unfold Calls.modifyApplicationPermissions
  split
  · rename_i happ
    rw [find_target happ]
    exact .inl rfl
  · split
    · rename_i happ
      rw [find_target happ]
      exact .inl rfl
    · exact .inr rfl

lemma step_moves (h : permissionUpdates.step s report s') : Moves s report s' := by
  obtain ⟨action, hheld, hfree, hstep⟩ := h
  cases action with
  | registry =>
    obtain ⟨⟨w, event⟩, hop, hp⟩ := Option.map_eq_some_iff.mp hstep
    cases hp
    exact .registry hheld (fun a ha => hfree a (by rw [ha])) hop
  | edit i table =>
    cases hstep
    exact .edit i table
  | resolve =>
    simp only [Calls.step] at hstep
    split at hstep
    · cases hstep
    obtain ⟨⟨w, event⟩, hop, hp⟩ := Option.map_eq_some_iff.mp hstep
    dsimp only at hp
    split at hp <;> cases hp
    · rename_i ha
      exact .resolve hheld hop ha
    · exact .refuse hheld hop
  | modify c server relayer =>
    obtain ⟨call, hc, hmap⟩ := Option.bind_eq_some_iff.mp hstep
    obtain ⟨p, hp, he⟩ := Option.map_eq_some_iff.mp hmap
    cases he
    rcases modifyApplicationPermissions_cases s call server relayer with hm | hm <;> rw [hm] at hp
    · obtain ⟨cell, hcell, hpair⟩ := Option.map_eq_some_iff.mp hp
      cases hpair
      exact .modify hc hcell
    · cases hp
      exact .missing hc
  | drop =>
    simp only [Calls.step] at hstep
    split at hstep <;> cases hstep
    exact .drop

/-! ### What a call holds -/

lemma GivenSince.given {ls : List Event} (h : GivenSince ls k i r) : Given ls k i r := by
  obtain ⟨pre, e, post, rfl, hgiven, -⟩ := h
  exact ⟨e, by simp, hgiven⟩

/-- The history of the registries goes on, and each call holds the state of its reference. -/
structure Sound (reports : List Report) (s : Calls) : Prop where
  run : Run registries World.init (events reports) s.world
  target : ∀ c call, s.calls c = some call →
    ∃ i, s.world.heap call.target = some ⟨i, true⟩ ∧
      Given (events reports) call.registry i call.sessionRef

lemma events_append : events (reports ++ [report]) = events reports ++ report.event.toList := by
  cases h : report.event <;> simp [events, h]

lemma alive_iff {heap : ℕ → Option Cell} : alive heap a = true ↔ ∃ i, heap a = some ⟨i, true⟩ := by
  constructor
  · intro h
    obtain ⟨⟨i, strong⟩, hcell, rfl⟩ := Option.any_eq_true _ _ |>.mp h
    exact ⟨i, hcell⟩
  · rintro ⟨i, hcell⟩
    simp [alive, hcell]

lemma resolved_target {ls : List Event} {late : List ℕ} (hr : Run registries World.init ls w)
    (hop : RegistryWorld.step w (.resolve k r late) = some (w', event))
    (ha : Calls.target w k r late = some a) :
    ∃ i, w'.heap a = some ⟨i, true⟩ ∧ Given ls k i r := by
  have halive : alive (dropAll w.heap late) a = true := (Option.filter_eq_some_iff.mp ha).2
  obtain ⟨i, hi⟩ := alive_iff.mp halive
  obtain ⟨l, hl, hs⟩ := run_sim sim_init hr
  have hstep : registries.step w event w' := ⟨.resolve k r late, by simp, hop⟩
  have hevent : event = .resolved k r (some i) := by
    cases hop
    rw [Calls.target] at ha
    simp [ha, hi]
  rw [hevent] at hstep
  obtain ⟨l', hstep', -⟩ := step_sim hs hstep
  refine ⟨i, ?_, GivenSince.given ((run_faithful hl).resolved hstep').2.1⟩
  cases hop
  exact hi

lemma Given.append {ls : List Event} (h : Given ls k i r) (ms : List Event) :
    Given (ls ++ ms) k i r := by
  obtain ⟨e, he, hgiven⟩ := h
  exact ⟨e, List.mem_append_left ms he, hgiven⟩

lemma Sound.world (h : Sound reports s) (report : Report)
    (hheld : ∀ a ∈ opDrops op, ¬ s.Held a)
    (hfree : ∀ a, op = .create a → ¬ Reserved s.world a)
    (hop : RegistryWorld.step s.world op = some (w, event)) (hreport : report.event = some event) :
    Sound (reports ++ [report]) { s with world := w } := by
  have hevents : events (reports ++ [report]) = events reports ++ [event] := by
    rw [events_append, hreport]
    rfl
  constructor
  · rw [hevents]
    exact h.run.snoc ⟨op, hfree, hop⟩
  intro c call hc
  obtain ⟨i, hi, hgiven⟩ := h.target c call hc
  refine ⟨i, step_heap hop hi fun hdrop => hheld _ hdrop ⟨c, call, hc, rfl⟩, ?_⟩
  rw [hevents]
  exact Given.append hgiven _

lemma Sound.quiet (h : Sound reports s) (hreport : report.event = none)
    (hworld : s'.world = s.world)
    (hcalls : ∀ c call, s'.calls c = some call → s.calls c = some call) :
    Sound (reports ++ [report]) s' := by
  have hevents : events (reports ++ [report]) = events reports := by
    rw [events_append, hreport]
    exact List.append_nil _
  constructor
  · rw [hevents, hworld]
    exact h.run
  intro c call hc
  rw [hevents, hworld]
  exact h.target c call (hcalls c call hc)

lemma calls_of_cleared {c c' : ℕ} {call : Call}
    (h : Function.update s.calls c none c' = some call) : s.calls c' = some call := by
  by_cases hc : c' = c
  · subst hc
    simp at h
  · rwa [Function.update_of_ne hc] at h

lemma Sound.moves (h : Sound reports s) (hm : Moves s report s') :
    Sound (reports ++ [report]) s' := by
  cases hm with
  | registry hheld hfree hop => exact h.world _ hheld hfree hop rfl
  | edit => exact h.quiet rfl rfl fun _ _ hc => hc
  | @resolve c k r late permissions w event a hheld hop ha =>
    have hw := h.world (.resolved c event none) hheld (by simp) hop rfl
    obtain ⟨i, hi, hgiven⟩ := resolved_target h.run hop ha
    refine ⟨hw.run, fun c' call hc => ?_⟩
    dsimp only at hc
    by_cases hcc : c' = c
    · subst hcc
      rw [Function.update_self] at hc
      cases hc
      refine ⟨i, hi, ?_⟩
      rw [events_append]
      exact Given.append hgiven _
    · rw [Function.update_of_ne hcc] at hc
      exact hw.target c' call hc
  | refuse hheld hop => exact h.world _ hheld (by simp) hop rfl
  | modify | missing | drop => exact h.quiet rfl rfl fun _ _ => calls_of_cleared

lemma run_sound (h : Run permissionUpdates Calls.init reports s) : Sound reports s := by
  refine h.history (P := Sound) ⟨.nil _, fun c call hc => ?_⟩ ?_
  · cases hc
  · intro ls t l u _ hsound hstep
    exact hsound.moves (step_moves hstep)

end Steps

/-! ### The whole story -/

section Main

variable {reports : List Report} {s s' : Calls} {report : Report}

/-- An update ends without a panic; if it fails, the tables are as they were. -/
lemma outcome_cases (tables : ℕ → PermissionTable) (i : ℕ) (permissions : PermissionUpdates) :
    (∃ e, Outcome.of (applyPermissionUpdates (tables i) permissions).1 = .returned (.error e) ∧
      Function.update tables i (applyPermissionUpdates (tables i) permissions).2 = tables) ∨
    Outcome.of (applyPermissionUpdates (tables i) permissions).1 = .returned (.ok ()) := by
  rcases applyPermissionUpdates_cases (tables i) permissions with ⟨message, h⟩ | h <;> rw [h]
  · exact .inl ⟨_, rfl, Function.update_eq_self ..⟩
  · exact .inr rfl

lemma moves_modified {c : ℕ} {outcome : Outcome} (h : Sound reports s)
    (hm : Moves s (.modified c outcome) s') :
    ∃ call i, s.calls c = some call ∧ s.world.heap call.target = some ⟨i, true⟩ ∧
      Given (events reports) call.registry i call.sessionRef ∧
      ((∃ e, outcome = .returned (.error e) ∧ s'.tables = s.tables) ∨
        outcome = .returned (.ok ()) ∧ s'.tables = Function.update s.tables i
          (applyPermissionUpdates (s.tables i) call.permissions).2) := by
  cases hm with
  | @modify _ call cell hc hcell =>
    obtain ⟨i, hi, hgiven⟩ := h.target c call hc
    rw [hi] at hcell
    cases hcell
    refine ⟨call, i, hc, hi, hgiven, ?_⟩
    obtain hfailed | hok := outcome_cases s.tables i call.permissions
    · exact .inl hfailed
    · exact .inr ⟨hok, rfl⟩
  | @missing _ call hc =>
    obtain ⟨i, hi, hgiven⟩ := h.target c call hc
    exact ⟨call, i, hc, hi, hgiven, .inl ⟨_, rfl, rfl⟩⟩

/-- A call that holds its state comes to its end, whatever the server and the relayer have. -/
lemma modify_ends {c : ℕ} {call : Call} (h : Sound reports s) (hc : s.calls c = some call)
    (server relayer : Option (List ℕ)) :
    ∃ s' outcome, s.step (.modify c server relayer) = some (s', .modified c outcome) := by
  obtain ⟨i, hi, -⟩ := h.target c call hc
  have hsome : ∃ p, s.modifyApplicationPermissions call server relayer = some p := by
    obtain hm | hm := modifyApplicationPermissions_cases s call server relayer
    · rw [hm, Calls.modifyAppPermissions, hi]
      exact ⟨_, rfl⟩
    · exact ⟨_, hm⟩
  obtain ⟨p, hp⟩ := hsome
  simp only [Calls.step, hc, Option.bind_some, hp, Option.map_some]
  exact ⟨_, _, rfl⟩

lemma moves_tables (hm : Moves s report s') (htables : s'.tables ≠ s.tables) :
    (∃ i, report = .edited i) ∨ ∃ c outcome, report = .modified c outcome := by
  cases hm with
  | edit i => exact .inl ⟨i, rfl⟩
  | modify => exact .inr ⟨_, _, rfl⟩
  | registry | resolve | refuse | missing | drop => exact absurd rfl htables

/-- **Permission updates are all or nothing.** An update is refused exactly if it names a
permission with the prefix of the wallet or one that is not there, and the table is then
untouched. Otherwise the named permissions get their policies, the others keep theirs, and no
permission moves; the order of the update does not matter. Over every history of the registries
and of any number of updates through references: an update always returns, it never panics, and
it touches no table but that of the living state its reference was given out for. -/
theorem permission_updates_exact :
    (∀ (current : PermissionTable) (updates : PermissionUpdates),
      ((∃ key ∈ updates, walletPrefixed key = true ∨ key ∉ current) →
        ∃ message, applyPermissionUpdates current updates = (.error (.bail message), current)) ∧
      ((¬ ∃ key ∈ updates, walletPrefixed key = true ∨ key ∉ current) →
        ∃ after, applyPermissionUpdates current updates = (.ok (), after) ∧
          after.keys = current.keys ∧
          (∀ key policy, updates.lookup key = some policy →
            (after.lookup key).map Xswd.Permission.policy = some policy) ∧
          ∀ key, key ∉ updates → after.lookup key = current.lookup key) ∧
      ∀ updates' : PermissionUpdates, updates.entries.Perm updates'.entries →
        applyPermissionUpdates current updates = applyPermissionUpdates current updates') ∧
    ∀ reports s, Run permissionUpdates Calls.init reports s →
      (∀ c call, s.calls c = some call → ∀ server relayer, ∃ s' outcome,
        s.step (.modify c server relayer) = some (s', .modified c outcome)) ∧
      (∀ report s', permissionUpdates.step s report s' → s'.tables ≠ s.tables →
        (∃ i, report = .edited i) ∨ ∃ c outcome, report = .modified c outcome) ∧
      ∀ c outcome s', permissionUpdates.step s (.modified c outcome) s' →
        ∃ call i, s.calls c = some call ∧ s.world.heap call.target = some ⟨i, true⟩ ∧
          Given (events reports) call.registry i call.sessionRef ∧
          (∀ k j, Given (events reports) k j call.sessionRef → k = call.registry ∧ j = i) ∧
          ((∃ e, outcome = .returned (.error e) ∧ s'.tables = s.tables) ∨
            outcome = .returned (.ok ()) ∧ s'.tables = Function.update s.tables i
              (applyPermissionUpdates (s.tables i) call.permissions).2) := by
  constructor
  · intro current updates
    refine ⟨applyPermissionUpdates_refused, fun h => ?_, fun _ => applyPermissionUpdates_perm⟩
    obtain ⟨hok, hkeys, hlookup⟩ := applyPermissionUpdates_spec h
    refine ⟨_, Prod.ext hok rfl, hkeys, fun key policy hpolicy => ?_, fun key hkey => ?_⟩
    · rw [hlookup key, overlay, show updates.entries.dlookup key = some policy from hpolicy]
      simp [policy_permissionFromPolicy]
    · rw [hlookup key, overlay, List.dlookup_eq_none.mpr hkey]
      rfl
  · intro reports s hrun
    have hsound := run_sound hrun
    refine ⟨fun c call hc => modify_ends hsound hc, fun report s' hstep => ?_, ?_⟩
    · exact moves_tables (step_moves hstep)
    intro c outcome s' hstep
    obtain ⟨call, i, hc, hi, hgiven, hout⟩ := moves_modified hsound (step_moves hstep)
    obtain ⟨l, hl, -⟩ := run_sim sim_init hsound.run
    refine ⟨call, i, hc, hi, hgiven, fun k j hkj => ?_, hout⟩
    exact (run_faithful hl).given_unique hkj hgiven

/-- The table of one application, and an update that accepts one of its permissions. -/
def balanceTable : PermissionTable := (AList.singleton "get_balance" .ask).insert "get_address" .ask

def acceptBalance : PermissionUpdates := AList.singleton "get_balance" .accept

/-- A state at address `100` has reference `1`, through which its permission is accepted. -/
theorem accepted_through_reference : ∃ reports s s',
    Run permissionUpdates Calls.init reports s ∧
    permissionUpdates.step s (.modified 0 (.returned (.ok ()))) s' ∧
    (s'.tables 0).lookup "get_balance" = some .allow ∧
    (s'.tables 0).lookup "get_address" = some .ask ∧
    s'.tables = Function.update s.tables 0
      (applyPermissionUpdates (s.tables 0) acceptBalance).2 := by
  have hfree : ∀ a, Action.registry (.create 100) = .registry (.create a) →
      ¬ Reserved Calls.init.world a := by
    rintro a - ⟨k, p, hp, -⟩
    exact absurd hp List.not_mem_nil
  have h₁ : permissionUpdates.step Calls.init (.registry (.created 0)) _ :=
    ⟨.registry (.create 100), by simp [Action.drops, opDrops], hfree, rfl⟩
  have hrun := ((((Run.nil Calls.init).snoc h₁).snoc (l := .registry (.projected 0 0 (.ok 1)))
    ⟨.registry (.project 0 100), by simp [Action.drops, opDrops], by simp, rfl⟩).snoc
    (l := .edited 0) ⟨.edit 0 balanceTable, by simp [Action.drops], by simp, rfl⟩).snoc
    (l := .resolved 0 (.resolved 0 1 (some 0)) none)
    ⟨.resolve 0 0 1 [] acceptBalance, by simp [Action.drops], by simp, rfl⟩
  refine ⟨_, _, _, hrun, ⟨.modify 0 (some [100]) none, by simp [Action.drops], by simp, rfl⟩,
    rfl, rfl, ?_⟩
  obtain ⟨call, i, hc, hi, -, -, hout⟩ := (permission_updates_exact.2 _ _ hrun).2.2 0
    (.returned (.ok ())) _ ⟨.modify 0 (some [100]) none, by simp [Action.drops], by simp, rfl⟩
  cases hc
  cases hi
  rcases hout with ⟨e, he, -⟩ | ⟨-, htables⟩
  · cases he
  · exact htables

end Main

end XelisWallet.Permissions
