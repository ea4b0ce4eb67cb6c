import XelisWallet.OrderedMaps
import XelisWallet.Xswd

/-!
Changing the permissions of an XSWD application.

The table of an application keeps the order of its permissions. An update is a hash map, so its
entries come in some order; another order of them is a permutation. The update is checked as a
whole before its loop begins.
-/

namespace XelisWallet.Permissions

open OrderedMaps Xswd

/-- `IndexMap<String, Permission>`. -/
abbrev PermissionTable := AList fun _ : String => Permission

/-- `HashMap<String, PermissionPolicy>`, in the order in which it is iterated. -/
abbrev PermissionUpdates := AList fun _ : String => PermissionPolicy

inductive Failure
  | bail (message : String)
  | panic (message : String)
  deriving DecidableEq, Repr

def permissionFromPolicy : PermissionPolicy → Permission
  | .accept => .allow
  | .reject => .reject
  | .ask => .ask

/-- `key.starts_with("wallet.")`. -/
def walletPrefixed (key : String) : Bool := "wallet.".toList.isPrefixOf key.toList

/-- The loop over the entries of the update. -/
def updateLoop : List (Sigma fun _ : String => PermissionPolicy) → PermissionTable →
    Except Failure Unit × PermissionTable
  | [], current => (.ok (), current)
  | ⟨key, policy⟩ :: updates, current =>
    match current.lookup key with
    | none => (.error (.panic "XSWD permission was validated before applying updates"), current)
    | some _ => updateLoop updates (current.replace key (permissionFromPolicy policy))

/-- The result, and the table as it is left. -/
def applyPermissionUpdates (current : PermissionTable) (updates : PermissionUpdates) :
    Except Failure Unit × PermissionTable :=
  if updates.keys.any walletPrefixed then
    (.error (.bail "Prefixed XSWD permission names are unsupported"), current)
  else if updates.keys.any fun key => key ∉ current then
    (.error (.bail "XSWD permission not found"), current)
  else updateLoop updates.entries current

variable {current : PermissionTable} {updates updates' : PermissionUpdates}

lemma policy_permissionFromPolicy (policy : PermissionPolicy) :
    (permissionFromPolicy policy).policy = policy := by
  cases policy <;> rfl

/-! ### The loop -/

/-- What the update says of a key, or what the table has. -/
def overlay (entries : List (Sigma fun _ : String => PermissionPolicy)) (current : PermissionTable)
    (key : String) : Option Permission :=
  ((entries.dlookup key).map permissionFromPolicy).or (current.lookup key)

lemma updateLoop_spec {entries : List (Sigma fun _ : String => PermissionPolicy)}
    (hentries : entries.NodupKeys) (hkeys : ∀ key ∈ entries.keys, key ∈ current) :
    (updateLoop entries current).1 = .ok () ∧
    (updateLoop entries current).2.keys = current.keys ∧
    ∀ key, (updateLoop entries current).2.lookup key = overlay entries current key := by
  induction entries generalizing current with
  | nil => exact ⟨rfl, rfl, fun _ => rfl⟩
  | cons entry entries ih =>
    obtain ⟨name, policy⟩ := entry
    obtain ⟨hname, hrest⟩ := List.nodupKeys_cons.mp hentries
    obtain ⟨permission, hpermission⟩ : ∃ permission, current.lookup name = some permission :=
      Option.isSome_iff_exists.mp (AList.lookup_isSome.mpr (hkeys name (by simp)))
    have hloop : updateLoop (⟨name, policy⟩ :: entries) current =
        updateLoop entries (current.replace name (permissionFromPolicy policy)) := by
      simp [updateLoop, hpermission]
    have hkeys' : ∀ key ∈ entries.keys,
        key ∈ current.replace name (permissionFromPolicy policy) := by
      intro key hkey
      exact AList.mem_replace.mpr (hkeys key (by simp [hkey]))
    obtain ⟨hok, hsame, hlookup⟩ := ih hrest hkeys'
    rw [hloop]
    refine ⟨hok, hsame.trans (AList.keys_replace ..), ?_⟩
    intro key
    rw [hlookup key, overlay, overlay, lookup_replace]
    by_cases hkey : key = name
    · subst hkey
      simp [List.dlookup_eq_none.mpr hname, hpermission]
    · simp [hkey]

/-! ### The whole update -/

/-- Whether the checks before the loop refuse the update. -/
def Refused (current : PermissionTable) (updates : PermissionUpdates) : Prop :=
  ∃ key ∈ updates, walletPrefixed key = true ∨ key ∉ current

lemma applyPermissionUpdates_refused (h : Refused current updates) :
    ∃ message, applyPermissionUpdates current updates = (.error (.bail message), current) := by
  obtain ⟨key, hkey, hbad⟩ := h
  unfold applyPermissionUpdates
  split
  · exact ⟨_, rfl⟩
  rename_i hplain
  have habsent : key ∉ current := by
    refine hbad.resolve_left fun hprefixed => hplain ?_
    exact List.any_eq_true.mpr ⟨key, hkey, hprefixed⟩
  rw [if_pos (List.any_eq_true.mpr ⟨key, hkey, by simpa using habsent⟩)]
  exact ⟨_, rfl⟩

lemma applyPermissionUpdates_taken (h : ¬ Refused current updates) :
    applyPermissionUpdates current updates = updateLoop updates.entries current := by
  unfold applyPermissionUpdates
  rw [if_neg, if_neg]
  · intro hany
    obtain ⟨key, hkey, habsent⟩ := List.any_eq_true.mp hany
    exact h ⟨key, hkey, .inr (by simpa using habsent)⟩
  · intro hany
    obtain ⟨key, hkey, hprefixed⟩ := List.any_eq_true.mp hany
    exact h ⟨key, hkey, .inl hprefixed⟩

lemma applyPermissionUpdates_spec (h : ¬ Refused current updates) :
    (applyPermissionUpdates current updates).1 = .ok () ∧
    (applyPermissionUpdates current updates).2.keys = current.keys ∧
    ∀ key, (applyPermissionUpdates current updates).2.lookup key =
      overlay updates.entries current key := by
  rw [applyPermissionUpdates_taken h]
  refine updateLoop_spec updates.nodupKeys fun key hkey => ?_
  by_contra habsent
  exact h ⟨key, hkey, .inr habsent⟩

lemma applyPermissionUpdates_ok :
    (applyPermissionUpdates current updates).1 = .ok () ↔ ¬ Refused current updates := by
  constructor
  · intro hok hrefused
    obtain ⟨message, he⟩ := applyPermissionUpdates_refused hrefused
    rw [he] at hok
    cases hok
  · exact fun h => (applyPermissionUpdates_spec h).1

/-- What the update comes to: nothing was changed, or everything. -/
lemma applyPermissionUpdates_cases (current : PermissionTable) (updates : PermissionUpdates) :
    (∃ message, applyPermissionUpdates current updates = (.error (.bail message), current)) ∨
    (applyPermissionUpdates current updates).1 = .ok () := by
  by_cases h : Refused current updates
  · exact .inl (applyPermissionUpdates_refused h)
  · exact .inr (applyPermissionUpdates_ok.mpr h)

lemma updateLoop_perm {entries entries' : List (Sigma fun _ : String => PermissionPolicy)}
    (h : entries.Perm entries') (hentries : entries.NodupKeys)
    (hkeys : ∀ key ∈ entries.keys, key ∈ current) :
    updateLoop entries current = updateLoop entries' current := by
  have hkeys' : ∀ key ∈ entries'.keys, key ∈ current := by
    intro key hkey
    exact hkeys key ((h.map Sigma.fst).mem_iff.mpr hkey)
  obtain ⟨hok, hsame, hlookup⟩ := updateLoop_spec hentries hkeys
  obtain ⟨hok', hsame', hlookup'⟩ :=
    updateLoop_spec ((List.perm_nodupKeys h).mp hentries) hkeys'
  refine Prod.ext (hok.trans hok'.symm) ?_
  refine eq_of_keys_lookup (hsame.trans hsame'.symm) fun key => ?_
  rw [hlookup key, hlookup' key, overlay, overlay, List.perm_dlookup key hentries h]

lemma applyPermissionUpdates_perm (h : updates.entries.Perm updates'.entries) :
    applyPermissionUpdates current updates = applyPermissionUpdates current updates' := by
  have hany : ∀ p : String → Bool, updates.keys.any p = updates'.keys.any p := by
    intro p
    rw [Bool.eq_iff_iff, List.any_eq_true, List.any_eq_true]
    have hkeys : updates.keys.Perm updates'.keys := h.map Sigma.fst
    simp [hkeys.mem_iff]
  unfold applyPermissionUpdates
  rw [← hany, ← hany]
  split
  · rfl
  split
  · rfl
  rename_i hknown
  refine updateLoop_perm h updates.nodupKeys fun key hkey => ?_
  by_contra habsent
  exact hknown (List.any_eq_true.mpr ⟨key, hkey, by simpa using habsent⟩)

end XelisWallet.Permissions
