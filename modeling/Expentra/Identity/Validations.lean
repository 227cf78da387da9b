-- SUMMARY: Validations of tokens beside changes of the user, step by step: which rows an accepted context was built from.
import Expentra.Identity.Mutations
import Expentra.Identity.Tokens
import Expentra.Library.Interleaving

/-!
# Validations beside changes of the user

`validate` asks the cache, reads the user, reads the departments the user manages, and
fills the cache, one after the other. `suspendUser`, `activateUser` and `adminUpdate`
read the user, save it and then delete the cached context. A fill with what was read before the save can come
after the deletion; it then serves until it expires.

The shared state records every version of the directory, one for each save, so that
contexts can be told by the versions they were built from.
-/

namespace Expentra.Validations

open Library

/-! ## The calls -/

/-- The save of a mutation, with what its transaction does beside it. -/
def save (cfg : Config) (mutation : Mutation) (previousDepartmentId : Option Nat)
    (edited : UserEntity) : AuthTx Unit :=
  match mutation with
  | .adminUpdate _ _ input => UserService.saveAdminUpdate cfg input previousDepartmentId edited
  | _ => UserService.saveUser edited

inductive Validation where
  | asked
  | missed
  | joining (user : User)
  | filling (context : AuthUser)
  | accepted (context : AuthUser)
  | refused (exception : HttpException)

/-- A saved user comes with the version of the directory that it made. -/
inductive Writing where
  | requested
  | editing (user : UserEntity)
  | releasing (previousDepartmentId : Option Nat) (edited : UserEntity) (changed : Bool)
  | saving (previousDepartmentId : Option Nat) (edited : UserEntity) (changed : Bool)
  | invalidating (edited : UserEntity) (changed : Bool) (version : Nat)
  | handling (edited : UserEntity) (changed : Bool) (version : Nat)
  | ended
  | failed (exception : HttpException)

/-- A validation knows the last version whose call had completed when it started. -/
inductive Thread where
  | validating (since : Nat) (phase : Validation)
  | mutating (mutation : Mutation) (phase : Writing)

inductive Arrival where
  | validate
  | mutate (mutation : Mutation)

structure Recorded where
  state : AuthState
  /-- The directory at the start, and after each save. -/
  versions : List Directory
  /-- The latest of the versions whose calls have completed. -/
  completed : Nat

def Recorded.init (s : AuthState) : Recorded := ⟨s, [s.directory], 0⟩

def accept (context : AuthUser) : Validation :=
  match JwtStrategy.assertActiveAuthUser context with
  | .ok _ => .accepted context
  | .error exception => .refused exception

def admitted (user : User) : Validation :=
  match JwtStrategy.assertActiveUser user with
  | .ok _ => .joining user
  | .error exception => .refused exception

def validateStep (ttlSeconds : Int) (reference : String) (s : Recorded) :
    Validation → Option (Recorded × Validation)
  | .asked =>
    if reference = "" then some (s, .refused (.unauthorized "Invalid token payload"))
    else match AuthContextCache.get ttlSeconds s.state reference with
      | some context => some (s, accept context)
      | none => some (s, .missed)
  | .missed =>
    match s.state.directory.findAuthContext reference with
    | some user => some (s, admitted user)
    | none => some (s, .refused (.unauthorized "User not found"))
  | .joining user =>
    some (s, .filling (toAuthUser user (s.state.directory.findManagedDepartmentIds user.id)))
  | .filling context =>
    some ({ s with state := (AuthContextCache.set ttlSeconds reference context).commit s.state },
      .accepted context)
  | .accepted _ | .refused _ => none

/-- The transaction of a mutation deletes a cached context before it commits: `releasing`
    is what it does to the cache, and `saving` what it does to the tables. -/
def mutateStep (cfg : Config) (id : Nat) (s : Recorded) (mutation : Mutation) :
    Writing → Option (Recorded × Writing)
  | .requested =>
    match mutation.check id, UserService.findOne s.state.directory id with
    | .ok _, .ok user => some (s, .editing user)
    | .error exception, _ | _, .error exception => some (s, .failed exception)
  | .editing user =>
    match mutation.edit s.state.directory user with
    | .ok (edited, changed) => some (s, .releasing user.departmentId.toOption edited changed)
    | .error exception => some (s, .failed exception)
  | .releasing previousDepartmentId edited changed =>
    some ({ s with state := { s.state with
        contexts := ((save cfg mutation previousDepartmentId edited).commit s.state).contexts } },
      .saving previousDepartmentId edited changed)
  | .saving previousDepartmentId edited changed =>
    match save cfg mutation previousDepartmentId edited s.state with
    | .ok (_, s') =>
      some ({ s with
          state := { s' with contexts := s.state.contexts }
          versions := s.versions ++ [s'.directory] },
        .invalidating edited changed s.versions.length)
    | .error exception => some (s, .failed exception)
  | .invalidating edited changed version =>
    some ({ s with state := (AuthContextCache.invalidate edited.reference).commit s.state },
      .handling edited changed version)
  | .handling edited changed version =>
    some ({ s with
        state := (Mutation.handle edited changed).commit s.state
        completed := max s.completed version },
      .ended)
  | .ended | .failed _ => none

/-- Any number of validations and mutations; a cached context expires at any time. -/
def calls (cfg : Config) (ttlSeconds : Int) (id : Nat) (reference : String) :
    Concurrent Recorded Thread Arrival Unit Unit where
  start s
    | .validate => some (s, .validating s.completed .asked)
    | .mutate mutation => some (s, .mutating mutation .requested)
  step _ s thread _ :=
    match thread with
    | .validating since phase =>
      (validateStep ttlSeconds reference s phase).map (fun r => (r.1, .validating since r.2))
    | .mutating mutation phase =>
      (mutateStep cfg id s mutation phase).map (fun r => (r.1, .mutating mutation r.2))
  surroundings s _ :=
    some { s with state := { s.state with contexts := s.state.contexts.del reference } }

/-! ## What an accepted context should be built from -/

/-- The user was read from one of the later versions. -/
def ReadSince (reference : String) (since : Nat) (versions : List Directory) (user : User) : Prop :=
  ∃ d ∈ versions.drop since, d.findAuthContext reference = some user

/-- The user and the departments were read from later versions. -/
def BuiltSince (reference : String) (since : Nat) (versions : List Directory)
    (context : AuthUser) : Prop :=
  ∃ user, ReadSince reference since versions user ∧
    ∃ d ∈ versions.drop since, context = toAuthUser user (d.findManagedDepartmentIds user.id)

def Thread.accepted? : Thread → Option (Nat × AuthUser)
  | .validating since (.accepted context) => some (since, context)
  | _ => none

/-- A call that started after a mutation had completed accepted no context built from
    the rows before it. -/
def AcceptsNoOlder (reference : String) (p : Pool Recorded Thread) : Prop :=
  ∀ thread ∈ p.threads, ∀ r ∈ thread.accepted?, 0 < r.1 →
    BuiltSince reference r.1 p.shared.versions r.2

/-! ## The condition -/

def Thread.fills? : Thread → Option AuthUser
  | .validating _ (.filling context) => some context
  | _ => none

/-- What a call caches is what the rows yield at that moment. -/
def FillsCurrent (ttlSeconds : Int) (reference : String) (_ : Nat) (s : Recorded) (thread : Thread)
    (_ : Unit) : Prop :=
  ∀ context ∈ thread.fills?, 0 < ttlSeconds →
    s.state.directory.currentContext reference = some context

instance (ttlSeconds : Int) (reference : String) (i : Nat) (s : Recorded) (thread : Thread)
    (outcome : Unit) : Decidable (FillsCurrent ttlSeconds reference i s thread outcome) :=
  inferInstanceAs (Decidable (∀ _ ∈ _, 0 < ttlSeconds → _))

/-! ## The invariant -/

/-- What is cached was built from the version or later ones. Of the first version nothing
    is asked: no mutation has completed before it. -/
structure Fresh (reference : String) (version : Nat) (s : Recorded) : Prop where
  lt : version < s.versions.length
  cached : 0 < version → ∀ context, s.state.contexts reference = some context →
    BuiltSince reference version s.versions context

/-- The directory is the last version, and the user has its row. -/
structure Good (id : Nat) (reference : String) (s : Recorded) : Prop where
  current : ∃ earlier, s.versions = earlier ++ [s.state.directory]
  fresh : Fresh reference s.completed s
  row : ∃ row, s.state.directory.users.find? id = some row ∧ row.reference = reference

/-- What the earlier steps of a call established. -/
def Knows (id : Nat) (reference : String) (_ : Nat) (s : Recorded) : Thread → Prop
  | .validating since .asked | .validating since .missed => Fresh reference since s
  | .validating since (.joining user) =>
    Fresh reference since s ∧ ReadSince reference since s.versions user
  | .validating since (.filling context) =>
    Fresh reference since s ∧ BuiltSince reference since s.versions context
  | .validating since (.accepted context) =>
    0 < since → BuiltSince reference since s.versions context
  | .mutating _ (.editing user) | .mutating _ (.releasing _ user _)
  | .mutating _ (.saving _ user _) => user.id = id ∧ user.reference = reference
  | .mutating _ (.invalidating user _ version) =>
    user.reference = reference ∧ version < s.versions.length
  | .mutating _ (.handling _ _ version) => Fresh reference version s
  | _ => True

/-- What a step of another call cannot take away. -/
structure Later (reference : String) (s s' : Recorded) : Prop where
  versions : s.versions <+: s'.versions
  fresh : ∀ version, Fresh reference version s → Fresh reference version s'

section Steps

variable {reference : String} {id since version : Nat} {versions versions' : List Directory}
  {s s' : Recorded} {user : User} {context : AuthUser}

theorem ReadSince.mono (h : versions <+: versions') (hread : ReadSince reference since versions user) :
    ReadSince reference since versions' user := by
  obtain ⟨d, hd, hfind⟩ := hread
  exact ⟨d, mem_drop_of_prefix h hd, hfind⟩

theorem BuiltSince.mono (h : versions <+: versions')
    (hbuilt : BuiltSince reference since versions context) :
    BuiltSince reference since versions' context := by
  obtain ⟨user, hread, d, hd, hcontext⟩ := hbuilt
  exact ⟨user, hread.mono h, d, mem_drop_of_prefix h hd, hcontext⟩

/-- The context that the rows yield now is built from every version. -/
theorem Good.built (h : Good id reference s) (hlt : version < s.versions.length)
    (hcontext : s.state.directory.currentContext reference = some context) :
    BuiltSince reference version s.versions context := by
  obtain ⟨user, huser, rfl⟩ := Option.map_eq_some_iff.1 hcontext
  exact ⟨user, ⟨_, mem_drop_of_current h.current hlt, huser⟩, _, mem_drop_of_current h.current hlt, rfl⟩

theorem Later.refl : Later reference s s := ⟨List.prefix_rfl, fun _ h => h⟩

/-- The assertion about a call holds after the steps of others. -/
theorem Knows.later {i : Nat} {thread : Thread} (h : Later reference s s')
    (hknows : Knows id reference i s thread) : Knows id reference i s' thread := by
  have hlength := h.versions.length_le
  cases thread with
  | validating since phase =>
    cases phase with
    | asked => exact h.fresh _ hknows
    | missed => exact h.fresh _ hknows
    | joining user => exact ⟨h.fresh _ hknows.1, hknows.2.mono h.versions⟩
    | filling context => exact ⟨h.fresh _ hknows.1, hknows.2.mono h.versions⟩
    | accepted context => exact fun hpos => (hknows hpos).mono h.versions
    | refused exception => trivial
  | mutating mutation phase =>
    cases phase with
    | invalidating user changed version => exact ⟨hknows.1, hknows.2.trans_le hlength⟩
    | handling user changed version => exact h.fresh _ hknows
    | editing user => exact hknows
    | releasing previous user changed => exact hknows
    | saving previous user changed => exact hknows
    | _ => trivial

/-! ### Changes of the shared state -/

/-- The cache forgets, and the directory stays. -/
theorem Fresh.forget {state : AuthState} {completed : Nat} (h : Fresh reference version s)
    (hcache : ∀ context, state.contexts reference = some context →
      s.state.contexts reference = some context) :
    Fresh reference version ⟨state, s.versions, completed⟩ :=
  ⟨h.lt, fun hpos context hcontext => h.cached hpos context (hcache context hcontext)⟩

theorem Later.forget {state : AuthState} {completed : Nat}
    (hcache : ∀ context, state.contexts reference = some context →
      s.state.contexts reference = some context) :
    Later reference s ⟨state, s.versions, completed⟩ :=
  ⟨List.prefix_rfl, fun _ h => h.forget hcache⟩

theorem Good.forget {state : AuthState} (h : Good id reference s)
    (hdirectory : state.directory = s.state.directory)
    (hcache : ∀ context, state.contexts reference = some context →
      s.state.contexts reference = some context) :
    Good id reference { s with state := state } where
  current := by
    rw [hdirectory]
    exact h.current
  fresh := h.fresh.forget hcache
  row := by
    rw [hdirectory]
    exact h.row

theorem contexts_del {contexts : Redis String AuthUser}
    (h : contexts.del reference reference = some context) : contexts reference = some context := by
  rw [Redis.del_self] at h
  cases h

/-- A fill under the condition. -/
theorem fill_cases {ttlSeconds : Int} (hcurrent : 0 < ttlSeconds →
      s.state.directory.currentContext reference = some context) (hs : Good id reference s) :
    let state := (AuthContextCache.set ttlSeconds reference context).commit s.state
    Good id reference { s with state := state } ∧ Later reference s { s with state := state } := by
  intro state
  by_cases hnonpos : ttlSeconds ≤ 0
  · have hstate : state = s.state := by
      simp [state, AuthContextCache.set, Transaction.commit, hnonpos, pure]
    rw [hstate]
    exact ⟨hs, .refl⟩
  · have hstate : state = { s.state with contexts := s.state.contexts.setCache reference context } := by
      simp [state, AuthContextCache.set, Transaction.commit, Transaction.write, hnonpos]
    rw [hstate]
    have hfresh : ∀ version, Fresh reference version s → Fresh reference version { s with
        state := { s.state with contexts := s.state.contexts.setCache reference context } } := by
      intro version h
      refine ⟨h.lt, fun _ other hother => ?_⟩
      cases Redis.setCache_self.symm.trans hother
      exact hs.built h.lt (hcurrent (Int.not_le.1 hnonpos))
    exact ⟨⟨hs.current, hfresh _ hs.fresh, hs.row⟩, List.prefix_rfl, hfresh⟩

end Steps

section Steps

variable {cfg : Config} {ttlSeconds : Int} {reference : String} {id i since : Nat} {s s' : Recorded}

theorem validateStep_keeps {phase phase' : Validation} (hs : Good id reference s)
    (hknows : Knows id reference i s (.validating since phase))
    (hcurrent : FillsCurrent ttlSeconds reference i s (.validating since phase) ())
    (h : validateStep ttlSeconds reference s phase = some (s', phase')) :
    Good id reference s' ∧ Knows id reference i s' (.validating since phase') ∧
      Later reference s s' := by
  cases phase with
  | asked =>
    simp only [validateStep] at h
    split at h
    · cases h
      exact ⟨hs, trivial, .refl⟩
    · split at h
      · rename_i context hcached
        cases h
        refine ⟨hs, ?_, .refl⟩
        have hheld : s.state.contexts reference = some context := by
          unfold AuthContextCache.get at hcached
          split at hcached
          · cases hcached
          · exact hcached
        unfold accept
        split
        · exact fun hpos => hknows.cached hpos context hheld
        · trivial
      · cases h
        exact ⟨hs, hknows, .refl⟩
  | missed =>
    simp only [validateStep] at h
    split at h
    · rename_i user huser
      cases h
      refine ⟨hs, ?_, .refl⟩
      unfold admitted
      split
      · exact ⟨hknows, _, mem_drop_of_current hs.current hknows.lt, huser⟩
      · trivial
    · cases h
      exact ⟨hs, trivial, .refl⟩
  | joining user =>
    cases h
    exact ⟨hs, ⟨hknows.1, user, hknows.2, _, mem_drop_of_current hs.current hknows.1.lt, rfl⟩, .refl⟩
  | filling context =>
    cases h
    obtain ⟨hgood, hlater⟩ := fill_cases (hcurrent context rfl) hs
    exact ⟨hgood, fun _ => hknows.2.mono hlater.versions, hlater⟩
  | accepted context => cases h
  | refused exception => cases h

/-- What a mutation saves is the row of the user, under its id and its reference. -/
theorem save_ok (reference : String) {mutation : Mutation} {previousDepartmentId : Option Nat}
    {edited : UserEntity} {row : UserRow} {state state' : AuthState} {u : Unit}
    (hrow : state.directory.users.find? edited.id = some row)
    (h : save cfg mutation previousDepartmentId edited state = .ok (u, state')) :
    state'.directory.users = state.directory.users.replace (row.save edited) ∧
      ∀ context, state'.contexts reference = some context →
        state.contexts reference = some context := by
  unfold save at h
  split at h
  · obtain ⟨htouches, hframe⟩ := UserService.saveAdminUpdate_ok hrow h
    refine ⟨?_, htouches.held reference⟩
    rw [hframe]
    rfl
  · cases (UserService.saveUser_eq_ok hrow).1 h
    exact ⟨rfl, fun _ hcontext => hcontext⟩

/-- The committed save of a mutation. -/
theorem save_keeps {mutation : Mutation} {previousDepartmentId : Option Nat} {edited : UserEntity}
    {state' : AuthState} {u : Unit} (hs : Good id reference s) (hid : edited.id = id)
    (h : save cfg mutation previousDepartmentId edited s.state = .ok (u, state')) :
    let saved : Recorded := { s with
      state := { state' with contexts := s.state.contexts }
      versions := s.versions ++ [state'.directory] }
    Good id reference saved ∧ Later reference s saved := by
  intro saved
  obtain ⟨row, hrow, hreference⟩ := hs.row
  have hfound : s.state.directory.users.find? edited.id = some row := hid ▸ hrow
  obtain ⟨husers, -⟩ := save_ok reference hfound h
  have hprefix : s.versions <+: saved.versions := List.prefix_append _ _
  have hfresh : ∀ version, Fresh reference version s → Fresh reference version saved :=
    fun version hfresh => ⟨hfresh.lt.trans_le hprefix.length_le,
      fun hpos context hcontext => (hfresh.cached hpos context hcontext).mono hprefix⟩
  refine ⟨⟨⟨s.versions, rfl⟩, hfresh _ hs.fresh, row.save edited, ?_, hreference⟩, hprefix, hfresh⟩
  have hkey : row.id = id := Table.key_of_find? hrow
  have hold : s.state.directory.users.find? (row.save edited).id = some row := hkey ▸ hrow
  change state'.directory.users.find? id = _
  rw [husers, ← hkey]
  exact Table.find?_replace_self hold

theorem mutateStep_keeps {mutation : Mutation} {phase phase' : Writing} (hs : Good id reference s)
    (hknows : Knows id reference i s (.mutating mutation phase))
    (h : mutateStep cfg id s mutation phase = some (s', phase')) :
    Good id reference s' ∧ Knows id reference i s' (.mutating mutation phase') ∧
      Later reference s s' := by
  cases phase with
  | requested =>
    simp only [mutateStep] at h
    split at h
    · rename_i user _ hfind
      cases h
      obtain ⟨row, hrow, hreference⟩ := hs.row
      obtain ⟨found, hfound, rfl⟩ := UserService.findOne_eq_ok.1 hfind
      obtain rfl : row = found := Option.some.inj (hrow.symm.trans hfound)
      have hid : row.id = id := Table.key_of_find? hrow
      exact ⟨hs, ⟨hid, hreference⟩, .refl⟩
    · cases h
      exact ⟨hs, trivial, .refl⟩
    · cases h
      exact ⟨hs, trivial, .refl⟩
  | editing user =>
    simp only [mutateStep] at h
    split at h
    · rename_i edited changed hedit
      cases h
      obtain ⟨hid, hreference⟩ := Mutation.edit_id hedit
      exact ⟨hs, ⟨hid.trans hknows.1, hreference.trans hknows.2⟩, .refl⟩
    · cases h
      exact ⟨hs, trivial, .refl⟩
  | releasing previous edited changed =>
    cases h
    obtain ⟨row, hrow, -⟩ := hs.row
    have hfound : s.state.directory.users.find? edited.id = some row := hknows.1 ▸ hrow
    have hheld : ∀ context, ((save cfg mutation previous edited).commit s.state).contexts reference =
        some context → s.state.contexts reference = some context := by
      refine Transaction.commit_induction (P := fun state : AuthState => ∀ context,
        state.contexts reference = some context → s.state.contexts reference = some context)
        (fun _ hcontext => hcontext) (fun _ state' hsave => ?_)
      exact (save_ok _ hfound hsave).2
    exact ⟨hs.forget rfl hheld, hknows, .forget hheld⟩
  | saving previous edited changed =>
    simp only [mutateStep] at h
    split at h
    · rename_i state' hsave
      cases h
      obtain ⟨hgood, hlater⟩ := save_keeps hs hknows.1 hsave
      refine ⟨hgood, ⟨hknows.2, ?_⟩, hlater⟩
      rw [List.length_append]
      exact Nat.lt_succ_self _
    · cases h
      exact ⟨hs, trivial, .refl⟩
  | invalidating edited changed version =>
    cases h
    obtain ⟨hreference, hlt⟩ := hknows
    rw [hreference]
    refine ⟨hs.forget rfl (fun _ => contexts_del), ⟨hlt, fun _ context hcontext => ?_⟩,
      .forget (fun _ => contexts_del)⟩
    cases Redis.del_self.symm.trans hcontext
  | handling edited changed version =>
    cases h
    obtain ⟨hdirectory, hcontexts⟩ := Mutation.handle_frame s.state edited changed
    have hheld : ∀ context, ((Mutation.handle edited changed).commit s.state).contexts reference =
        some context → s.state.contexts reference = some context := fun _ h => hcontexts ▸ h
    have hgood := hs.forget hdirectory hheld
    refine ⟨⟨hgood.current, ?_, hgood.row⟩, trivial, .forget hheld⟩
    rcases Nat.le_total s.completed version with hle | hle
    · rw [Nat.max_eq_right hle]
      exact hknows.forget hheld
    · rw [Nat.max_eq_left hle]
      exact hs.fresh.forget hheld
  | ended => cases h
  | failed exception => cases h

end Steps

/-! ## Runs -/

section Runs

variable {cfg : Config} {ttlSeconds : Int} {reference : String} {id : Nat}

theorem outline : (calls cfg ttlSeconds id reference).Outline (FillsCurrent ttlSeconds reference)
    (Good id reference) (Knows id reference) where
  start := by
    intro s arrival s' thread hs hstart
    cases arrival with
    | validate =>
      cases hstart
      exact ⟨hs, fun _ => hs.fresh, fun _ _ h => h⟩
    | mutate mutation =>
      cases hstart
      exact ⟨hs, fun _ => trivial, fun _ _ h => h⟩
  step := by
    intro i s thread outcome s' thread' hs hknows hguard hstep
    cases thread with
    | validating since phase =>
      obtain ⟨⟨_, phase'⟩, hmove, hr⟩ := Option.map_eq_some_iff.1 hstep
      cases hr
      obtain ⟨hgood, hself, hlater⟩ := validateStep_keeps hs hknows hguard hmove
      exact ⟨hgood, hself, fun _ _ _ h => h.later hlater⟩
    | mutating mutation phase =>
      obtain ⟨⟨_, phase'⟩, hmove, hr⟩ := Option.map_eq_some_iff.1 hstep
      cases hr
      obtain ⟨hgood, hself, hlater⟩ := mutateStep_keeps hs hknows hmove
      exact ⟨hgood, hself, fun _ _ _ h => h.later hlater⟩
  surroundings := by
    intro s event s' hs hexpire
    cases hexpire
    exact ⟨hs.forget rfl (fun _ => contexts_del),
      fun _ _ h => h.later (.forget (fun _ => contexts_del))⟩

end Runs

/-- When every fill is with what the rows yield at that moment, a validation that starts
    after a mutation has completed accepts no context built from the rows before it. -/
theorem accepts_no_older (cfg : Config) (ttlSeconds : Int) (s₀ : AuthState) (row : UserRow)
    (p : Pool Recorded Thread) (hrow : row ∈ s₀.directory.users)
    (h : Reaches (Guarded (Concurrent.onStep (FillsCurrent ttlSeconds row.reference))
      (calls cfg ttlSeconds row.id row.reference).Step) (.idle (.init s₀)) p) :
    AcceptsNoOlder row.reference p := by
  have hstart : Good row.id row.reference (.init s₀) :=
    ⟨⟨[], rfl⟩, ⟨Nat.zero_lt_one, fun hpos => absurd hpos (Nat.lt_irrefl 0)⟩, row,
      Table.find?_of_mem hrow, rfl⟩
  have hholds := outline.reaches (Concurrent.holds_idle hstart) h
  rintro thread hthread ⟨since, context⟩ haccepted hpos
  obtain ⟨i, hi⟩ := List.mem_iff_getElem?.1 hthread
  have hknows := hholds.thread i thread hi
  cases thread with
  | validating since' phase =>
    cases phase with
    | accepted context' =>
      cases haccepted
      exact hknows hpos
    | _ => cases haccepted
  | mutating mutation phase => cases haccepted

namespace Sample

open Expentra.Sample

def config : Config := ⟨BudgetPeriod.utcZone, false⟩

def administrator : AuthUser := toAuthUser (directory.loadUser administratorRow) []

def steps (thread count : Nat) : List (Turn Arrival Unit Unit) :=
  List.replicate count (.step thread ())

/-- The manager is moved to another role between two validations. -/
def inOrder : List (Turn Arrival Unit Unit) :=
  [.start .validate] ++ steps 0 4 ++
    [.start (.mutate (.adminUpdate 1700000000000 administrator
      ⟨some "ROL1700000000003AAAAAA", .undefined, none⟩))] ++ steps 1 6 ++
    [.start .validate] ++ steps 2 4

/-- The manager is suspended between the reads of a validation and its fill. -/
def lateFill : List (Turn Arrival Unit Unit) :=
  [.start .validate] ++ steps 0 3 ++ [.start (.mutate (.suspendUser 1700000000000 1))] ++
    steps 1 6 ++ steps 0 1 ++ [.start .validate] ++ steps 2 1

end Sample

/-- After the change of the role a validation accepts the new role. -/
theorem accepts_no_older_sample :
    ∃ p, (calls Sample.config 60 2 Expentra.Sample.managerRow.reference).exec
        (FillsCurrent 60 Expentra.Sample.managerRow.reference) Sample.inOrder
        (.idle (.init Expentra.Sample.authState)) = some p ∧
      p.threads.map (fun thread => thread.accepted?.map (fun r => (r.1, r.2.role))) =
        [some (0, "staff"), none, some (1, "finance_manager")] ∧
      AcceptsNoOlder Expentra.Sample.managerRow.reference p := by
  have hexec : ((calls Sample.config 60 2 Expentra.Sample.managerRow.reference).exec
      (FillsCurrent 60 Expentra.Sample.managerRow.reference) Sample.inOrder
      (.idle (.init Expentra.Sample.authState))).any (fun p =>
        p.threads.map (fun thread => thread.accepted?.map (fun r => (r.1, r.2.role))) =
          [some (0, "staff"), none, some (1, "finance_manager")]) = true := by decide +kernel
  obtain ⟨p, hp, haccepted⟩ := (Option.any_eq_true _ _).1 hexec
  have hrow : Expentra.Sample.managerRow ∈ Expentra.Sample.authState.directory.users :=
    Table.mem_iff.2 (List.mem_cons_of_mem _ List.mem_cons_self)
  exact ⟨p, hp, of_decide_eq_true haccepted,
    accepts_no_older Sample.config 60 _ _ p hrow (Concurrent.reaches_of_exec hp)⟩

/-- A validation that starts after the suspension has completed accepts the manager as
    active. -/
theorem suspended_user_accepted :
    ∃ p, Reaches (calls Sample.config 60 2 Expentra.Sample.managerRow.reference).Step
        (.idle (.init Expentra.Sample.authState)) p ∧
      p.shared.completed = 1 ∧
      (∃ context, (.validating 1 (.accepted context) : Thread) ∈ p.threads ∧
        context.isActive = true) ∧
      (p.shared.state.directory.findAuthContext Expentra.Sample.managerRow.reference).map
        (·.isActive) = some false ∧
      ¬ AcceptsNoOlder Expentra.Sample.managerRow.reference p := by
  have hexec : ((calls Sample.config 60 2 Expentra.Sample.managerRow.reference).exec
      Concurrent.anyStep Sample.lateFill (.idle (.init Expentra.Sample.authState))).any (fun p =>
        decide (p.shared.completed = 1) &&
        p.threads.any (fun thread => thread.accepted?.any (fun r => r.1 = 1 ∧ r.2.isActive)) &&
        decide ((p.shared.state.directory.findAuthContext Expentra.Sample.managerRow.reference).map
          (·.isActive) = some false) &&
        (p.shared.versions.drop 1).all (fun d =>
          (d.findAuthContext Expentra.Sample.managerRow.reference).all (fun user =>
            !user.isActive))) = true := by decide +kernel
  obtain ⟨p, hp, hcheck⟩ := (Option.any_eq_true _ _).1 hexec
  rw [Bool.and_eq_true, Bool.and_eq_true, Bool.and_eq_true] at hcheck
  obtain ⟨⟨⟨hcompleted, haccepted⟩, hnow⟩, hversions⟩ := hcheck
  obtain ⟨thread, hthread, hlate⟩ := List.any_eq_true.1 haccepted
  obtain ⟨⟨since, context⟩, hcontext, hvalues⟩ := (Option.any_eq_true _ _).1 hlate
  obtain ⟨rfl, hactive⟩ := of_decide_eq_true hvalues
  have hthread_eq : thread = .validating 1 (.accepted context) := by
    cases thread with
    | validating since' phase =>
      cases phase with
      | accepted context' =>
        cases hcontext
        rfl
      | _ => cases hcontext
    | mutating mutation phase => cases hcontext
  subst hthread_eq
  refine ⟨p, (Concurrent.reaches_of_exec hp).of_guarded, of_decide_eq_true hcompleted,
    ⟨context, hthread, hactive⟩, of_decide_eq_true hnow, fun hnone => ?_⟩
  obtain ⟨user, ⟨d, hd, huser⟩, d', -, hbuilt⟩ := hnone _ hthread _ rfl Nat.zero_lt_one
  have hinactive := (Option.all_eq_true _ _).1 (List.all_eq_true.1 hversions d hd) user huser
  have hcontextActive : context.isActive = user.isActive := congrArg AuthUser.isActive hbuilt
  rw [← hcontextActive, hactive] at hinactive
  cases hinactive

end Expentra.Validations
