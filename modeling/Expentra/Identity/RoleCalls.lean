-- SUMMARY: Calls on one role step by step: the set of its permissions after any interleaving of them.
import Expentra.Identity.Roles
import Expentra.Library.Interleaving

/-!
# Concurrent calls on one role

`setPermissions` reads the permissions of the role, checks the new list on its own,
deletes the ones it read and inserts the new ones, in statements without a transaction
around them. `update` reads the role with its permissions and saves both. A call whose
reading is still what is stored when it writes leaves the list it was given, or changes
nothing; one whose reading is not leaves a union, or an old list.
-/

namespace Expentra.RoleCalls

open Library RoleService

/-! ## The calls -/

/-- A call on the role, with the arguments beside its reference. -/
inductive Request where
  | setPermissions (actor : AuthUser) (permissionReferences : List String)
  | applyTemplate (actor : AuthUser) (templateKey : String)
  | update (input : UpdateRoleInput)

inductive Phase where
  | requested
  | loading (actor : AuthUser) (permissionReferences : List String)
  | checking (actor : AuthUser) (permissionReferences : List String) (role : RoleRow)
  | removing (role : RoleRow) (permissions : List PermissionRow)
  | adding (role : RoleRow) (permissions : List PermissionRow)
  | editing (input : UpdateRoleInput) (role : RoleRow)
  | saving (edited : RoleRow)
  | invalidating (roleId : Nat)
  | ended (result : Except HttpException Unit)

structure Call where
  request : Request
  phase : Phase

def failed (exception : HttpException) : Phase := .ended (.error exception)

/-- The next step of a call: a read, or a statement that writes. -/
def advance (reference : String) (s : AuthState) (call : Call) : Option (AuthState × Phase) :=
  match call.phase with
  | .requested =>
    match call.request with
    | .setPermissions actor permissionReferences => some (s, .loading actor permissionReferences)
    | .applyTemplate actor templateKey =>
      some ((Transaction.query (fun s : AuthState => templateReferences s.directory templateKey)).attempt
        (.loading actor) failed s)
    | .update input =>
      some ((Transaction.query (fun s : AuthState => findOne s.directory reference)).attempt
        (.editing input) failed s)
  | .loading actor permissionReferences =>
    some ((Transaction.query (fun s : AuthState => findOne s.directory reference)).attempt
      (.checking actor permissionReferences) failed s)
  | .checking actor permissionReferences role =>
    some ((Transaction.query (fun s : AuthState =>
      resolveAssignable s.directory actor role permissionReferences)).attempt (.removing role) failed s)
  | .removing role permissions =>
    some ((removePermissions role.id role.permissionIds).attempt
      (fun _ => .adding role permissions) failed s)
  | .adding role permissions =>
    some ((addPermissions role.id (permissions.map (·.id))).attempt
      (fun _ => .invalidating role.id) failed s)
  | .editing input role =>
    some ((Transaction.query (fun s : AuthState => edit s.directory input role)).attempt
      .saving failed s)
  | .saving edited => some ((saveRole edited).attempt (fun _ => .invalidating edited.id) failed s)
  | .invalidating roleId =>
    some ((invalidateUsersForRole roleId).attempt (fun _ => .ended (.ok ())) failed s)
  | .ended _ => none

/-- Any number of calls on the role with the reference. -/
def calls (reference : String) : Concurrent AuthState Call Request Unit Empty where
  start s request := some (s, ⟨request, .requested⟩)
  step _ s call _ := (advance reference s call).map (fun r => (r.1, { call with phase := r.2 }))
  surroundings _ event := nomatch event

/-! ## What the calls should leave -/

/-- The lists have the same elements. -/
def SameSet (l l' : List Nat) : Prop := l ⊆ l' ∧ l' ⊆ l

instance (l l' : List Nat) : Decidable (SameSet l l') := inferInstanceAs (Decidable (_ ∧ _))

theorem SameSet.refl {l : List Nat} : SameSet l l := ⟨List.Subset.refl l, List.Subset.refl l⟩

theorem SameSet.trans {l₁ l₂ l₃ : List Nat} (h : SameSet l₁ l₂) (h' : SameSet l₂ l₃) :
    SameSet l₁ l₃ := ⟨List.Subset.trans h.1 h'.1, List.Subset.trans h'.2 h.2⟩

theorem SameSet.eq_nil {l : List Nat} (h : SameSet l []) : l = [] := List.subset_nil.1 h.1

/-- The call is given a list of permissions. -/
def Request.isAssignment : Request → Bool
  | .update _ => false
  | _ => true

def Request.references? (d : Directory) : Request → Option (List String)
  | .setPermissions _ permissionReferences => some permissionReferences
  | .applyTemplate _ templateKey => (templateReferences d templateKey).toOption
  | .update _ => none

/-- The permissions a call is given. -/
def Request.given? (d : Directory) (request : Request) : Option (List PermissionRow) :=
  (request.references? d).bind (fun references =>
    (resolvePermissions d (references.map normalizeEntityReference).eraseDups).toOption)

def Phase.isEnded : Phase → Bool
  | .ended _ => true
  | _ => false

/-- The call has put its list in the place of what it read. -/
def Call.hasSet (call : Call) : Bool :=
  match call.phase with
  | .invalidating _ | .ended (.ok _) => call.request.isAssignment
  | _ => false

/-- With all calls at their end, the role has what one of the successful calls was given,
    a list without a conflict, or, when no list was set, what it had at first. -/
def Consistent (reference : String) (s₀ : AuthState) (p : Pool AuthState Call) : Prop :=
  (∀ call ∈ p.threads, call.phase.isEnded = true) → ∀ role₀ role,
    findOne s₀.directory reference = .ok role₀ → findOne p.shared.directory reference = .ok role →
    ((∀ call ∈ p.threads, call.hasSet = false) ∧ SameSet role.permissionIds role₀.permissionIds) ∨
      ∃ call ∈ p.threads, call.hasSet = true ∧ ∃ permissions,
        call.request.given? s₀.directory = some permissions ∧ ¬ HasConflict permissions ∧
          SameSet role.permissionIds (permissions.map (·.id))

/-! ## The condition -/

/-- The role a call writes next, and the permissions it takes the role to have. -/
def Phase.expects? : Phase → Option (Nat × List Nat)
  | .removing role _ => some (role.id, role.permissionIds)
  | .adding role _ => some (role.id, [])
  | .saving edited => some (edited.id, edited.permissionIds)
  | _ => none

def stored (s : AuthState) (roleId : Nat) : List Nat :=
  ((s.directory.roles.find? roleId).map (·.permissionIds)).getD []

/-- What the call read, less what it deleted, is what is stored when it writes. -/
def Current (_ : Nat) (s : AuthState) (call : Call) (_ : Unit) : Prop :=
  ∀ expected ∈ call.phase.expects?, SameSet (stored s expected.1) expected.2

instance (i : Nat) (s : AuthState) (call : Call) (outcome : Unit) :
    Decidable (Current i s call outcome) :=
  inferInstanceAs (Decidable (∀ _ ∈ _, SameSet _ _))

/-! ## What a call knows -/

/-- The role under the reference is the same row, with whatever permissions. -/
structure Tracked (reference : String) (role₀ : RoleRow) (d₀ : Directory) (s : AuthState) : Prop where
  permissions : s.directory.permissions = d₀.permissions
  role : ∃ role, findOne s.directory reference = .ok role ∧ role.id = role₀.id ∧
    role.reference = role₀.reference

/-- The list is the one the call is given, and was checked. -/
def Request.Given (d : Directory) (request : Request) (permissions : List PermissionRow) : Prop :=
  request.given? d = some permissions ∧ ¬ HasConflict permissions

/-- What the earlier steps of a call established. -/
def Knows (role₀ : RoleRow) (d₀ : Directory) (call : Call) : Prop :=
  match call.phase with
  | .loading _ references => call.request.references? d₀ = some references
  | .checking _ references role =>
    call.request.references? d₀ = some references ∧ role.id = role₀.id
  | .removing role permissions | .adding role permissions =>
    call.request.isAssignment = true ∧ call.request.Given d₀ permissions ∧ role.id = role₀.id
  | .editing _ role | .saving role =>
    call.request.isAssignment = false ∧ role.id = role₀.id ∧ role.reference = role₀.reference
  | _ => True

section Facts

variable {reference : String} {role₀ role role' : RoleRow} {d d₀ : Directory} {s s' : AuthState}

theorem resolvePermissions_congr (h : d.permissions = d₀.permissions) {references : List String} :
    resolvePermissions d references = resolvePermissions d₀ references := by
  induction references with
  | nil => rfl
  | cons reference rest ih => simp only [resolvePermissions, h, ih]

theorem templateReferences_congr (h : d.permissions = d₀.permissions) {templateKey : String} :
    templateReferences d templateKey = templateReferences d₀ templateKey := by
  simp only [templateReferences, resolvePermissionsByNames, h]

theorem resolveAssignable_eq_ok {actor : AuthUser} {references : List String}
    {permissions : List PermissionRow}
    (h : resolveAssignable d actor role references = .ok permissions) :
    resolvePermissions d (references.map normalizeEntityReference).eraseDups = .ok permissions ∧
      ¬ HasConflict permissions := by
  obtain ⟨_, -, h⟩ := Except.bind_eq_ok.1 h
  obtain ⟨resolved, hresolved, h⟩ := Except.bind_eq_ok.1 h
  obtain ⟨_, hassignable, h⟩ := Except.bind_eq_ok.1 h
  cases h
  exact ⟨hresolved, (PermissionAssignmentPolicy.assertCanAssignPermissions_eq_ok.1 hassignable).2⟩

theorem stored_of_mem (h : role ∈ s.directory.roles) : stored s role.id = role.permissionIds := by
  rw [stored, Table.find?_of_mem h]
  rfl

/-- A role that is replaced under its id and its reference is found under both. -/
theorem findOne_setRole (h : findOne s.directory reference = .ok role) (hid : role'.id = role.id)
    (hreference : role'.reference = role.reference) :
    findOne (setRole s role').directory reference = .ok role' := by
  unfold findOne findEntityByReference at h ⊢
  dsimp only at h ⊢
  split at h
  · cases h
  · rename_i hvalid
    rw [if_neg hvalid]
    split at h
    · rename_i row hfind
      cases h
      have hfound : role.reference = normalizeEntityReference reference := by
        simpa using List.find?_some hfind
      have hreplaced : (setRole s role').directory.roles.rows.find? (fun row =>
          decide (row.reference = normalizeEntityReference reference)) = some role' :=
        Table.search_replace_self hfind hid (decide_eq_true (hreference.trans hfound))
      rw [hreplaced]
    · cases h

theorem Tracked.setRole (role' : RoleRow) (h : Tracked reference role₀ d₀ s) (hid : role'.id = role₀.id)
    (hreference : role'.reference = role₀.reference) :
    Tracked reference role₀ d₀ (RoleService.setRole s role') ∧
      stored (RoleService.setRole s role') role₀.id = role'.permissionIds := by
  obtain ⟨role, hfind, hroleId, hroleReference⟩ := h.role
  have hfound := findOne_setRole hfind (hid.trans hroleId.symm)
    (hreference.trans hroleReference.symm)
  refine ⟨⟨h.permissions, role', hfound, hid, hreference⟩, ?_⟩
  rw [← hid]
  exact stored_of_mem (findOne_eq_ok hfound)

end Facts

/-! ## Steps -/

def Phase.isAdding : Phase → Bool
  | .adding _ _ => true
  | _ => false

section Steps

variable {reference : String} {role₀ : RoleRow} {d₀ : Directory} {s s' : AuthState} {call : Call}
  {phase' : Phase}

/-- What a step does to the permissions of the role. -/
inductive Effect (role₀ : RoleRow) (d₀ : Directory) (s s' : AuthState) (call : Call)
    (phase' : Phase) : Prop where
  | emptied (hadding : phase'.isAdding = true) (hstored : stored s' role₀.id = [])
  | replaced (permissions : List PermissionRow) (hset : Call.hasSet ⟨call.request, phase'⟩ = true)
      (hgiven : call.request.Given d₀ permissions)
      (hstored : stored s' role₀.id = permissions.map (·.id))
  | kept (hadding : call.phase.isAdding = false)
      (hset : Call.hasSet ⟨call.request, phase'⟩ = call.hasSet)
      (hstored : SameSet (stored s' role₀.id) (stored s role₀.id))

/-- A step that reads. -/
theorem Effect.read (hs : s' = s) (hadding : call.phase.isAdding = false)
    (hset : Call.hasSet ⟨call.request, phase'⟩ = call.hasSet) :
    Effect role₀ d₀ s s' call phase' := .kept hadding hset (hs ▸ .refl)

theorem attempt_query_cases {α : Type} {f : AuthState → Except HttpException α} {next : α → Phase}
    (h : (Transaction.query f).attempt next failed s = (s', phase')) :
    s' = s ∧ ((∃ a, f s = .ok a ∧ phase' = next a) ∨ ∃ exception, phase' = failed exception) := by
  rcases Transaction.attempt_cases h with ⟨a, s₁, hok, hr⟩ | ⟨exception, -, hr⟩
  · obtain ⟨hf, rfl⟩ := Transaction.query_eq_ok.1 hok
    cases hr
    exact ⟨rfl, .inl ⟨a, hf, rfl⟩⟩
  · cases hr
    exact ⟨rfl, .inr ⟨exception, rfl⟩⟩

/-- What a step of a call that knows its role leaves: it keeps track of the role, and of what
    the call knows. -/
structure Moves (reference : String) (role₀ : RoleRow) (d₀ : Directory) (s s' : AuthState)
    (call : Call) (phase' : Phase) : Prop where
  tracked : Tracked reference role₀ d₀ s'
  knows : Knows role₀ d₀ ⟨call.request, phase'⟩
  effect : Effect role₀ d₀ s s' call phase'

theorem requested_moves {request : Request} (hs : Tracked reference role₀ d₀ s)
    (h : advance reference s ⟨request, .requested⟩ = some (s', phase')) :
    Moves reference role₀ d₀ s s' ⟨request, .requested⟩ phase' := by
  obtain ⟨role, hrole, hid, href⟩ := hs.role
  cases request with
  | setPermissions actor references =>
    cases h
    exact ⟨hs, rfl, .read rfl rfl rfl⟩
  | applyTemplate actor templateKey =>
    obtain ⟨rfl, ⟨references, hreferences, rfl⟩ | ⟨exception, rfl⟩⟩ :=
      attempt_query_cases (Option.some.inj h)
    · refine ⟨hs, ?_, .read rfl rfl rfl⟩
      rw [templateReferences_congr hs.permissions] at hreferences
      exact congrArg Except.toOption hreferences
    · exact ⟨hs, trivial, .read rfl rfl rfl⟩
  | update input =>
    obtain ⟨rfl, ⟨found, hfound, rfl⟩ | ⟨exception, rfl⟩⟩ :=
      attempt_query_cases (Option.some.inj h)
    · obtain rfl : role = found := Except.ok.inj (hrole.symm.trans hfound)
      exact ⟨hs, ⟨rfl, hid, href⟩, .read rfl rfl rfl⟩
    · exact ⟨hs, trivial, .read rfl rfl rfl⟩

theorem checking_moves {request : Request} {actor : AuthUser} {references : List String}
    {found : RoleRow} (hs : Tracked reference role₀ d₀ s)
    (hcall : Knows role₀ d₀ ⟨request, .checking actor references found⟩)
    (h : advance reference s ⟨request, .checking actor references found⟩ = some (s', phase')) :
    Moves reference role₀ d₀ s s' ⟨request, .checking actor references found⟩ phase' := by
  obtain ⟨hreferences, hfoundId⟩ := hcall
  obtain ⟨rfl, ⟨permissions, hpermissions, rfl⟩ | ⟨exception, rfl⟩⟩ :=
    attempt_query_cases (Option.some.inj h)
  · obtain ⟨hresolved, hconflict⟩ := resolveAssignable_eq_ok hpermissions
    rw [resolvePermissions_congr hs.permissions] at hresolved
    have hgiven : request.given? d₀ = some permissions := by
      rw [Request.given?, hreferences, Option.bind_some, hresolved]
      rfl
    have hassignment : request.isAssignment = true := by
      cases request with
      | update input => cases hreferences
      | _ => rfl
    exact ⟨hs, ⟨hassignment, ⟨hgiven, hconflict⟩, hfoundId⟩, .read rfl rfl rfl⟩
  · exact ⟨hs, trivial, .read rfl rfl rfl⟩

/-- What is stored is what the call read: the deletion leaves nothing. -/
theorem removing_moves {request : Request} {found : RoleRow} {permissions : List PermissionRow}
    (hs : Tracked reference role₀ d₀ s) (hcall : Knows role₀ d₀ ⟨request, .removing found permissions⟩)
    (hcurrent : Current 0 s ⟨request, .removing found permissions⟩ ())
    (h : advance reference s ⟨request, .removing found permissions⟩ = some (s', phase')) :
    Moves reference role₀ d₀ s s' ⟨request, .removing found permissions⟩ phase' := by
  obtain ⟨role, hrole, hid, href⟩ := hs.role
  obtain ⟨hassignment, hgiven, hfoundId⟩ := hcall
  have hmem := findOne_eq_ok hrole
  have hsame : SameSet (stored s found.id) found.permissionIds := hcurrent _ rfl
  rw [hfoundId, ← hid, stored_of_mem hmem] at hsame
  have hremove : removePermissions found.id found.permissionIds s = .ok ((), setRole s { role with
      permissionIds := role.permissionIds.filter (· ∉ found.permissionIds) }) := by
    rw [hfoundId, ← hid]
    exact (removePermissions_eq_ok hmem).2 rfl
  simp only [advance, Transaction.attempt, hremove, Option.some.injEq, Prod.mk.injEq] at h
  obtain ⟨rfl, rfl⟩ := h
  obtain ⟨htracked, hstored⟩ := hs.setRole { role with
    permissionIds := role.permissionIds.filter (· ∉ found.permissionIds) } hid href
  refine ⟨htracked, ⟨hassignment, hgiven, hfoundId⟩, .emptied rfl (hstored.trans ?_)⟩
  exact List.filter_eq_nil_iff.2 (fun id hid => by simpa using hsame.1 hid)

/-- Nothing is stored: the role has the list the call is given. -/
theorem adding_moves {request : Request} {found : RoleRow} {permissions : List PermissionRow}
    (hs : Tracked reference role₀ d₀ s) (hcall : Knows role₀ d₀ ⟨request, .adding found permissions⟩)
    (hcurrent : Current 0 s ⟨request, .adding found permissions⟩ ())
    (h : advance reference s ⟨request, .adding found permissions⟩ = some (s', phase')) :
    Moves reference role₀ d₀ s s' ⟨request, .adding found permissions⟩ phase' := by
  obtain ⟨role, hrole, hid, href⟩ := hs.role
  obtain ⟨hassignment, hgiven, hfoundId⟩ := hcall
  have hmem := findOne_eq_ok hrole
  have hempty : stored s found.id = [] := SameSet.eq_nil (hcurrent _ rfl)
  rw [hfoundId, ← hid, stored_of_mem hmem] at hempty
  have hadd : addPermissions found.id (permissions.map (·.id)) s = .ok ((), setRole s { role with
      permissionIds := role.permissionIds ++ permissions.map (·.id) }) := by
    rw [hfoundId, ← hid]
    refine (addPermissions_eq_ok hmem).2 ⟨fun id _ => ?_, rfl⟩
    rw [hempty]
    exact List.not_mem_nil
  simp only [advance, Transaction.attempt, hadd, Option.some.injEq, Prod.mk.injEq] at h
  obtain ⟨rfl, rfl⟩ := h
  obtain ⟨htracked, hstored⟩ := hs.setRole { role with
    permissionIds := role.permissionIds ++ permissions.map (·.id) } hid href
  refine ⟨htracked, trivial, .replaced permissions hassignment hgiven (hstored.trans ?_)⟩
  simp only [hempty, List.nil_append]

theorem editing_moves {request : Request} {input : UpdateRoleInput} {found : RoleRow}
    (hs : Tracked reference role₀ d₀ s) (hcall : Knows role₀ d₀ ⟨request, .editing input found⟩)
    (h : advance reference s ⟨request, .editing input found⟩ = some (s', phase')) :
    Moves reference role₀ d₀ s s' ⟨request, .editing input found⟩ phase' := by
  obtain ⟨hassignment, hfoundId, hfoundRef⟩ := hcall
  obtain ⟨rfl, ⟨edited, hedited, rfl⟩ | ⟨exception, rfl⟩⟩ :=
    attempt_query_cases (Option.some.inj h)
  · have hframe := edit_eq_ok hedited
    refine ⟨hs, ⟨hassignment, ?_, ?_⟩, .read rfl rfl rfl⟩
    · rw [hframe]
      exact hfoundId
    · rw [hframe]
      exact hfoundRef
  · exact ⟨hs, trivial, .read rfl rfl rfl⟩

/-- What is stored is what the call read: the save keeps the permissions. -/
theorem saving_moves {request : Request} {edited : RoleRow} (hs : Tracked reference role₀ d₀ s)
    (hcall : Knows role₀ d₀ ⟨request, .saving edited⟩)
    (hcurrent : Current 0 s ⟨request, .saving edited⟩ ())
    (h : advance reference s ⟨request, .saving edited⟩ = some (s', phase')) :
    Moves reference role₀ d₀ s s' ⟨request, .saving edited⟩ phase' := by
  obtain ⟨hassignment, heditedId, heditedRef⟩ := hcall
  have hsame : SameSet (stored s edited.id) edited.permissionIds := hcurrent _ rfl
  rcases Transaction.attempt_cases (Option.some.inj h) with ⟨_, s₁, hsave, hr⟩ | ⟨_, -, hr⟩
  · cases hr
    obtain ⟨-, rfl⟩ := saveRole_eq_ok.1 hsave
    obtain ⟨htracked, hstored⟩ := hs.setRole _ heditedId heditedRef
    refine ⟨htracked, trivial, .kept rfl hassignment ?_⟩
    rw [hstored, ← heditedId]
    exact ⟨hsame.2, hsame.1⟩
  · cases hr
    exact ⟨hs, trivial, .read rfl rfl rfl⟩

theorem invalidating_moves {request : Request} {roleId : Nat} (hs : Tracked reference role₀ d₀ s)
    (h : advance reference s ⟨request, .invalidating roleId⟩ = some (s', phase')) :
    Moves reference role₀ d₀ s s' ⟨request, .invalidating roleId⟩ phase' := by
  obtain ⟨role, hrole, hid, href⟩ := hs.role
  obtain ⟨s₁, hinvalidate⟩ : ∃ s₁, invalidateUsersForRole roleId s = .ok ((), s₁) := ⟨_, rfl⟩
  simp only [advance, Transaction.attempt, hinvalidate, Option.some.injEq, Prod.mk.injEq] at h
  obtain ⟨rfl, rfl⟩ := h
  have hframe := (invalidateUsersForRole_ok hinvalidate).1
  have hdirectory : s₁.directory = s.directory := by rw [hframe]
  refine ⟨⟨?_, role, ?_, hid, href⟩, trivial, .kept rfl rfl ?_⟩
  · rw [hdirectory]
    exact hs.permissions
  · rw [hdirectory]
    exact hrole
  · rw [stored, hdirectory]
    exact .refl

/-- A step of a call that knows its role keeps track of it, and of what it knows. -/
theorem advance_moves (hs : Tracked reference role₀ d₀ s) (hcall : Knows role₀ d₀ call)
    (hcurrent : Current 0 s call ()) (h : advance reference s call = some (s', phase')) :
    Moves reference role₀ d₀ s s' call phase' := by
  obtain ⟨request, phase⟩ := call
  cases phase with
  | requested => exact requested_moves hs h
  | loading actor references =>
    obtain ⟨role, hrole, hid, -⟩ := hs.role
    obtain ⟨rfl, ⟨found, hfound, rfl⟩ | ⟨exception, rfl⟩⟩ :=
      attempt_query_cases (Option.some.inj h)
    · obtain rfl : role = found := Except.ok.inj (hrole.symm.trans hfound)
      exact ⟨hs, ⟨hcall, hid⟩, .read rfl rfl rfl⟩
    · exact ⟨hs, trivial, .read rfl rfl rfl⟩
  | checking actor references found => exact checking_moves hs hcall h
  | removing found permissions => exact removing_moves hs hcall hcurrent h
  | adding found permissions => exact adding_moves hs hcall hcurrent h
  | editing input found => exact editing_moves hs hcall h
  | saving edited => exact saving_moves hs hcall hcurrent h
  | invalidating roleId => exact invalidating_moves hs h
  | ended result => cases h

end Steps

/-! ## Runs -/

/-- Where the permissions that are stored come from. -/
inductive Accounted (role₀ : RoleRow) (d₀ : Directory) (p : Pool AuthState Call) : Prop where
  | between (call : Call) (hmem : call ∈ p.threads) (hadding : call.phase.isAdding = true)
      (hstored : stored p.shared role₀.id = [])
  | given (call : Call) (hmem : call ∈ p.threads) (hset : call.hasSet = true)
      (permissions : List PermissionRow) (hgiven : call.request.Given d₀ permissions)
      (hstored : SameSet (stored p.shared role₀.id) (permissions.map (·.id)))
  | initial (hset : ∀ call ∈ p.threads, call.hasSet = false)
      (hstored : SameSet (stored p.shared role₀.id) role₀.permissionIds)

structure PoolInvariant (reference : String) (role₀ : RoleRow) (d₀ : Directory)
    (p : Pool AuthState Call) : Prop where
  tracked : Tracked reference role₀ d₀ p.shared
  knows : ∀ call ∈ p.threads, Knows role₀ d₀ call
  accounted : Accounted role₀ d₀ p

section Runs

variable {reference : String} {role₀ : RoleRow} {d₀ : Directory} {p p' : Pool AuthState Call}

theorem PoolInvariant.idle {s₀ : AuthState} (h : findOne s₀.directory reference = .ok role₀) :
    PoolInvariant reference role₀ s₀.directory (.idle s₀) where
  tracked := ⟨rfl, role₀, h, rfl, rfl⟩
  knows := fun _ hcall => absurd hcall List.not_mem_nil
  accounted := by
    refine .initial (fun _ hcall => absurd hcall List.not_mem_nil) ?_
    rw [show (Pool.idle s₀ : Pool AuthState Call).shared = s₀ from rfl,
      stored_of_mem (findOne_eq_ok h)]
    exact .refl

/-- The step of one call accounts for what is stored after it. -/
theorem Accounted.step {i : Nat} {call : Call} {s' : AuthState} {phase' : Phase}
    (h : Accounted role₀ d₀ p) (hi : p.threads[i]? = some call)
    (heffect : Effect role₀ d₀ p.shared s' call phase') :
    Accounted role₀ d₀ ⟨s', p.threads.set i ⟨call.request, phase'⟩⟩ := by
  have hlt : i < p.threads.length := (List.getElem?_eq_some_iff.1 hi).1
  have hself : (⟨call.request, phase'⟩ : Call) ∈ p.threads.set i ⟨call.request, phase'⟩ :=
    List.mem_set hlt _
  cases heffect with
  | emptied hadding hstored => exact .between _ hself hadding hstored
  | replaced permissions hset hgiven hstored =>
    exact .given _ hself hset permissions hgiven (hstored ▸ .refl)
  | kept hadding hset hstored =>
    cases h with
    | between other hmem hother hempty =>
      rcases Concurrent.eq_or_mem_set hi hmem with rfl | hmem
      · rw [hadding] at hother
        cases hother
      · exact .between other hmem hother (SameSet.eq_nil (hempty ▸ hstored))
    | given other hmem hother permissions hgiven hsame =>
      rcases Concurrent.eq_or_mem_set hi hmem with rfl | hmem
      · exact .given _ hself (hset.trans hother) permissions hgiven (hstored.trans hsame)
      · exact .given other hmem hother permissions hgiven (hstored.trans hsame)
    | initial hnone hsame =>
      refine .initial (fun other hmem => ?_) (hstored.trans hsame)
      rcases List.mem_or_eq_of_mem_set hmem with hold | rfl
      · exact hnone other hold
      · exact hset.trans (hnone call (List.mem_of_getElem? hi))

theorem PoolInvariant.next {turn : Turn Request Unit Empty} (h : PoolInvariant reference role₀ d₀ p)
    (hguard : Concurrent.onStep Current p turn) (hstep : (calls reference).Step p turn p') :
    PoolInvariant reference role₀ d₀ p' := by
  cases turn with
  | start request =>
    obtain ⟨s, call, hstart, rfl⟩ := Concurrent.next_start_eq_some.1 hstep
    cases hstart
    refine ⟨h.tracked, fun call hcall => ?_, ?_⟩
    · rcases List.mem_append.1 hcall with hold | hnew
      · exact h.knows call hold
      · rw [List.mem_singleton.1 hnew]
        trivial
    · cases h.accounted with
      | between other hmem hadding hstored =>
        exact .between other (List.mem_append_left _ hmem) hadding hstored
      | given other hmem hset permissions hgiven hstored =>
        exact .given other (List.mem_append_left _ hmem) hset permissions hgiven hstored
      | initial hnone hstored =>
        refine .initial (fun other hmem => ?_) hstored
        rcases List.mem_append.1 hmem with hold | hnew
        · exact hnone other hold
        · rw [List.mem_singleton.1 hnew]
          rfl
  | step i outcome =>
    obtain ⟨call, s', call', hi, hmove, rfl⟩ := Concurrent.next_step_eq_some.1 hstep
    obtain ⟨⟨_, phase'⟩, hadvance, hr⟩ := Option.map_eq_some_iff.1 hmove
    cases hr
    have hcall : call ∈ p.threads := List.mem_of_getElem? hi
    obtain ⟨htracked, hknows, heffect⟩ :=
      advance_moves h.tracked (h.knows call hcall) (hguard i outcome call rfl hi) hadvance
    refine ⟨htracked, fun other hother => ?_, h.accounted.step hi heffect⟩
    rcases List.mem_or_eq_of_mem_set hother with hold | rfl
    · exact h.knows other hold
    · exact hknows
  | surroundings event => cases event

/-- In a run in which every call writes on what it read, the calls leave a list that one of
    them was given. -/
theorem consistent_of_current (reference : String) (s₀ : AuthState) (p : Pool AuthState Call)
    (h : Reaches (Guarded (Concurrent.onStep Current) (calls reference).Step) (.idle s₀) p) :
    Consistent reference s₀ p := by
  intro hended role₀ role hrole₀ hrole
  have hinv : PoolInvariant reference role₀ s₀.directory p :=
    h.invariant (fun _ _ _ hp hstep => hp.next hstep.1 hstep.2) (.idle hrole₀)
  obtain ⟨found, hfound, hid, -⟩ := hinv.tracked.role
  obtain rfl : found = role := Except.ok.inj (hfound.symm.trans hrole)
  have hstored : stored p.shared role₀.id = found.permissionIds := by
    rw [← hid]
    exact stored_of_mem (findOne_eq_ok hfound)
  cases hinv.accounted with
  | between call hmem hadding hempty =>
    -- a call between its two statements has not ended
    have hcall := hended call hmem
    cases hphase : call.phase with
    | adding found permissions =>
      rw [hphase] at hcall
      cases hcall
    | _ =>
      rw [hphase] at hadding
      cases hadding
  | given call hmem hset permissions hgiven hsame =>
    exact .inr ⟨call, hmem, hset, permissions, hgiven.1, hgiven.2, hstored ▸ hsame⟩
  | initial hnone hsame => exact .inl ⟨hnone, hstored ▸ hsame⟩

end Runs

namespace Sample

open Expentra.Sample

/-- Two lists that are each fine: one submits expenses, the other approves them. -/
def superAdmin : AuthUser :=
  ⟨9, "USR1700000000009AAAAAA", "root@expentra.test", "super_admin", 9, true, none, true, none, [], []⟩

def submitters : Request := .setPermissions superAdmin ["PER1700000000002AAAAAA"]

def approvers : Request := .setPermissions superAdmin ["PER1700000000003AAAAAA"]

def renamed : Request := .update ⟨some "people", none⟩

def oneByOne : List (Turn Request Unit Empty) :=
  [.start submitters, .step 0 (), .step 0 (), .step 0 (), .step 0 (), .step 0 (), .step 0 (),
    .start renamed, .step 1 (), .step 1 (), .step 1 (), .step 1 ()]

def bothRead : List (Turn Request Unit Empty) :=
  [.start submitters, .start approvers, .step 0 (), .step 0 (), .step 0 (), .step 1 (), .step 1 (),
    .step 1 (), .step 0 (), .step 1 (), .step 0 (), .step 1 (), .step 0 (), .step 1 ()]

end Sample

/-- One call after the other, the second a new name: the list of the first stays. -/
theorem consistent_of_current_sample :
    ∃ p, (calls "ROL1700000000001AAAAAA").exec Current Sample.oneByOne
        (.idle Expentra.Sample.authState) = some p ∧
      p.shared.directory.roles.rows.map (fun role => (role.name, role.permissionIds)) =
        [("people", [2]), ("staff", [2]), ("finance_manager", [3])] ∧
      Consistent "ROL1700000000001AAAAAA" Expentra.Sample.authState p := by
  have hexec : ((calls "ROL1700000000001AAAAAA").exec Current Sample.oneByOne
      (.idle Expentra.Sample.authState)).any (fun p =>
        p.shared.directory.roles.rows.map (fun role => (role.name, role.permissionIds)) =
          [("people", [2]), ("staff", [2]), ("finance_manager", [3])]) = true := by decide +kernel
  obtain ⟨p, hp, hroles⟩ := (Option.any_eq_true _ _).1 hexec
  exact ⟨p, hp, of_decide_eq_true hroles,
    consistent_of_current _ _ _ (Concurrent.reaches_of_exec hp)⟩

/-- Two calls that both read before either deletes: the role has both lists, which the
    rules keep apart. -/
theorem both_lists_stay :
    ∃ p, Reaches (calls "ROL1700000000001AAAAAA").Step (.idle Expentra.Sample.authState) p ∧
      (∀ call ∈ p.threads, call.phase.isEnded = true ∧ call.hasSet = true) ∧
      (∃ role, findOne p.shared.directory "ROL1700000000001AAAAAA" = .ok role ∧
        HasConflict (p.shared.directory.permissions.rows.filter (·.id ∈ role.permissionIds))) ∧
      ¬ Consistent "ROL1700000000001AAAAAA" Expentra.Sample.authState p := by
  have hexec : ((calls "ROL1700000000001AAAAAA").exec Concurrent.anyStep Sample.bothRead
      (.idle Expentra.Sample.authState)).any (fun p =>
        decide (∀ call ∈ p.threads, call.phase.isEnded = true ∧ call.hasSet = true ∧
          ∀ permissions ∈ call.request.given? Expentra.Sample.directory,
            ¬ SameSet [2, 3] (permissions.map (·.id))) &&
        decide (findOne p.shared.directory "ROL1700000000001AAAAAA" =
          .ok ⟨1, "ROL1700000000001AAAAAA", "hr_admin", none, [2, 3]⟩) &&
        (findConflict (p.shared.directory.permissions.rows.filter (·.id ∈ [2, 3]))).isSome &&
        !p.threads.isEmpty) = true := by decide +kernel
  obtain ⟨p, hp, hcheck⟩ := (Option.any_eq_true _ _).1 hexec
  rw [Bool.and_eq_true, Bool.and_eq_true, Bool.and_eq_true] at hcheck
  obtain ⟨⟨⟨hcalls, hrole⟩, hconflict⟩, hsome⟩ := hcheck
  have hended := of_decide_eq_true hcalls
  have hfound := of_decide_eq_true hrole
  refine ⟨p, (Concurrent.reaches_of_exec hp).of_guarded,
    fun call hcall => ⟨(hended call hcall).1, (hended call hcall).2.1⟩, ⟨_, hfound, ?_⟩,
    fun hconsistent => ?_⟩
  · rw [← not_not (a := HasConflict _), ← findConflict_eq_none]
    exact Option.isSome_iff_ne_none.1 hconflict
  · have hinitial : findOne Expentra.Sample.directory "ROL1700000000001AAAAAA" =
        .ok ⟨1, "ROL1700000000001AAAAAA", "hr_admin", none, [1]⟩ := by decide +kernel
    rcases hconsistent (fun call hcall => (hended call hcall).1) _ _ hinitial hfound with
      ⟨hnone, -⟩ | ⟨call, hcall, -, permissions, hgiven, -, hsame⟩
    · obtain ⟨call, hcall⟩ := List.exists_mem_of_ne_nil _ (by simpa using hsome)
      have hset := (hended call hcall).2.1
      rw [hnone call hcall] at hset
      cases hset
    · exact (hended call hcall).2.2 permissions hgiven hsame

end Expentra.RoleCalls
