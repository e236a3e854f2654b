import AccountGrants.Proofs.Reconcile
import AccountGrants.Proofs.Row.Canonical

/-!
Creations. A creation asks first and executes last: it goes on to its statement exactly if the roles
it needs are there and nothing that is listed stands in its way. `Grant.Creation` has the ways in
which it can end, and `Reconcile.create_guarded` tells them apart by what the server answers.
-/

namespace AccountGrants

/-- A live grant that another one is not created beside: it has the same holder, option and kind,
and it is not without privileges. -/
structure Grant.StandsInWay (live g : Grant) : Prop where
  identity : live.identity = g.identity
  grantOption : live.grantOption = g.grantOption
  kind : live.kind = g.kind
  holds : live.kind = .role ∨
    ∃ tokens, live.privileges? = some tokens ∧ Privilege.canonicalize tokens ≠ []

/-- A row that lists a grant in the way of another one. -/
def Row.Blocks (g : Grant) (row : String) : Prop :=
  ∃ live, Row.parse row = .ok (.grant live) ∧ live.StandsInWay g

/-- An answer to a query for grants that leaves the way free: every row can be read and none is in
the way, or there are no grants to list. -/
inductive Grant.IsFree (g : Grant) : Except DatabaseError (List String) → Prop
  | listed {rows : List String} (readable : ∀ row ∈ rows, Row.Readable row)
      (free : ∀ row ∈ rows, ¬Row.Blocks g row) : IsFree g (.ok rows)
  | unknown {e : DatabaseError} (absent : e.category = .nonexistentGrant) : IsFree g (.error e)

/-- An answer every row of which can be read, one of them in the way. -/
inductive Grant.IsBlocked (g : Grant) : Except DatabaseError (List String) → Prop
  | listed {rows : List String} (readable : ∀ row ∈ rows, Row.Readable row)
      (blocked : ∃ row ∈ rows, Row.Blocks g row) : IsBlocked g (.ok rows)

theorem Grant.IsBlocked.not_isFree {g : Grant} {answer : Except DatabaseError (List String)}
    (h : g.IsBlocked answer) : ¬g.IsFree answer := by
  cases h with
  | listed _ blocked =>
    obtain ⟨row, hrow, hblocks⟩ := blocked
    intro hfree
    cases hfree with
    | listed _ free => exact free row hrow hblocks

theorem Grant.standsInWay_iff {live g : Grant} {row : String}
    (hrow : Row.parse row = .ok (.grant live)) :
    live.StandsInWay g ↔ live.identity = g.identity ∧ live.conflictsWith g = true := by
  have hcanonical := Row.isCanonical_of_parse hrow
  have hholds : (live.kind = .role ∨
      ∃ tokens, live.privileges? = some tokens ∧ Privilege.canonicalize tokens ≠ []) ↔
        live.privileges? ≠ some [] := by
    unfold Grant.kind Grant.privileges?
    cases hentitlement : live.entitlement with
    | privileges tokens object =>
      rw [hentitlement] at hcanonical
      cases object <;> simp [show Privilege.canonicalize tokens = tokens from hcanonical]
    | membership roles => simp
  have hconflict : live.conflictsWith g = true ↔ live.grantOption = g.grantOption ∧
      live.kind = g.kind ∧ live.privileges? ≠ some [] := by
    simp [Grant.conflictsWith, and_assoc]
  rw [hconflict, ← hholds]
  constructor
  · intro h
    exact ⟨h.identity, h.grantOption, h.kind, h.holds⟩
  · rintro ⟨identity, grantOption, kind, holds⟩
    exact ⟨identity, grantOption, kind, holds⟩

theorem any_conflictsWith_iff {g : Grant} {rows : List String} :
    (grantsOf g.identity rows).any (·.conflictsWith g) = true ↔
      ∃ row ∈ rows, Row.Blocks g row := by
  rw [List.any_eq_true]
  constructor
  · rintro ⟨live, hlive, hconflict⟩
    obtain ⟨row, hrow, hparse, hid⟩ := mem_grantsOf.mp hlive
    exact ⟨row, hrow, live, hparse, (Grant.standsInWay_iff hparse).mpr ⟨hid, hconflict⟩⟩
  · rintro ⟨row, hrow, live, hparse, hway⟩
    obtain ⟨hid, hconflict⟩ := (Grant.standsInWay_iff hparse).mp hway
    exact ⟨live, mem_grantsOf.mpr ⟨row, hrow, hparse, hid⟩, hconflict⟩

namespace Exchange

/-- The server has the roles that a grant needs, and says so. -/
def Admits (x : Exchange) (g : Grant) : Prop :=
  g.kind = .role → x.askRoles.1 = .ok true

/-- The question about roles, which is asked for role grants only. -/
def probe (x : Exchange) (g : Grant) : List Attempt :=
  if g.kind = .role then [⟨.supportsRoles, x.script.roles⟩] else []

/-- The query for what is listed of the holder. -/
def listing (x : Exchange) (g : Grant) : Attempt :=
  ⟨.query (Reconcile.listingQuery g.identity), x.script.query⟩

end Exchange

/-- Any problem but a conflict. -/
def Problem.IsNoConflict (problem : Problem) : Prop :=
  ∀ who, problem ≠ .conflict who

/-- What the check for a grant in the way comes to. -/
inductive Grant.Checked (g : Grant) (answer : Except DatabaseError (List String)) :
    Except Failure Bool → Prop
  | free (h : g.IsFree answer) : Checked g answer (.ok false)
  | blocked (h : g.IsBlocked answer) : Checked g answer (.ok true)
  | failed {f : Failure} (unfree : ¬g.IsFree answer) (unblocked : ¬g.IsBlocked answer)
      (other : f.problem.IsNoConflict) : Checked g answer (.error f)

/-- How a creation ends, and the calls made until then. -/
inductive Grant.Creation (g : Grant) (x : Exchange) : Except Failure String → List Attempt → Prop
  | unadmitted {f : Failure} (roles : ¬x.Admits g) (other : f.problem.IsNoConflict) :
      Creation g x (.error f) (x.probe g)
  | unlisted {f : Failure} (roles : x.Admits g) (unfree : ¬g.IsFree x.queryAnswer)
      (unblocked : ¬g.IsBlocked x.queryAnswer) (other : f.problem.IsNoConflict) :
      Creation g x (.error f) (x.probe g ++ [x.listing g])
  | blocked (roles : x.Admits g) (h : g.IsBlocked x.queryAnswer) :
      Creation g x (.error ⟨.conflict g.identity, none⟩) (x.probe g ++ [x.listing g])
  | refused (roles : x.Admits g) (h : g.IsFree x.queryAnswer) (e : DatabaseError) :
      Creation g x (.error ⟨.execution g.statement e.message, none⟩)
        (x.probe g ++ [x.listing g, ⟨.execute g.statement, some e⟩])
  | created (roles : x.Admits g) (h : g.IsFree x.queryAnswer) :
      Creation g x (.ok g.identifier)
        (x.probe g ++ [x.listing g, ⟨.execute g.statement, none⟩])

namespace Reconcile

theorem hasConflict_attempts (g : Grant) (x : Exchange) :
    ((hasConflict g).on x).2.attempts = x.attempts ++ [x.listing g] := by
  rw [on_hasConflict]
  exact list_attempts g.identity x

theorem hasConflict_checked (g : Grant) (x : Exchange) :
    g.Checked x.queryAnswer ((hasConflict g).on x).1 := by
  have hlisted := list_listed g.identity x
  rw [on_hasConflict]
  generalize x.queryAnswer = answer, ((list g.identity).on x).1 = listing at hlisted ⊢
  cases hlisted with
  | unknown absent => exact .free (.unknown ((DatabaseError.isIgnorable_iff _).mp absent))
  | refused other =>
    refine .failed ?_ nofun nofun
    intro hfree
    cases hfree with
    | unknown absent => exact other ((DatabaseError.isIgnorable_iff _).mpr absent)
  | @readable rows hreadable =>
    by_cases hblocked : ∃ row ∈ rows, Row.Blocks g row
    · have hany := any_conflictsWith_iff.mpr hblocked
      dsimp only [Except.map]
      rw [hany]
      exact .blocked (.listed hreadable hblocked)
    · have hany := Bool.eq_false_iff.mpr (mt any_conflictsWith_iff.mp hblocked)
      dsimp only [Except.map]
      rw [hany]
      exact .free (.listed hreadable fun row hrow hblocks => hblocked ⟨row, hrow, hblocks⟩)
  | unreadable _ hrow =>
    refine .failed ?_ ?_ nofun
    · intro hfree
      cases hfree with
      | listed readable => exact hrow (readable _ (by simp))
    · intro hblocked
      cases hblocked with
      | listed readable => exact hrow (readable _ (by simp))

/-- Behind the question about roles a creation lists, and executes if the listing leaves its way
free. -/
theorem createUnlessConflict_creation {g : Grant} {x y : Exchange} (hroles : x.Admits g)
    (hlisting : y.listing g = x.listing g) (hanswer : y.queryAnswer = x.queryAnswer)
    (hprobed : y.attempts = x.attempts ++ x.probe g) :
    ∃ made, ((createUnlessConflict g).on y).2.attempts = x.attempts ++ made ∧
      g.Creation x ((createUnlessConflict g).on y).1 made := by
  have hchecked := hasConflict_checked g y
  have hattempts := hasConflict_attempts g y
  rw [hanswer] at hchecked
  rw [hprobed, hlisting, List.append_assoc] at hattempts
  rw [on_createUnlessConflict]
  generalize (hasConflict g).on y = outcome at hchecked hattempts ⊢
  obtain ⟨result, z⟩ := outcome
  dsimp only at hchecked hattempts
  cases hchecked with
  | failed unfree unblocked other =>
    exact ⟨_, hattempts, .unlisted hroles unfree unblocked other⟩
  | blocked h => exact ⟨_, hattempts, .blocked hroles h⟩
  | free h =>
    have hexecuted : ((execute g.statement).on z).2.attempts = x.attempts ++ (x.probe g ++
        [x.listing g, ⟨.execute g.statement, z.script.executes.head?.join⟩]) := by
      rw [on_execute, Exchange.execute, Exchange.record, hattempts]
      simp
    refine ⟨_, hexecuted, ?_⟩
    dsimp only
    rw [on_execute]
    cases z.script.executes.head?.join with
    | some e => exact .refused hroles h e
    | none => exact .created hroles h

theorem create_creation (g : Grant) (x : Exchange) :
    ∃ made, ((create g).on x).2.attempts = x.attempts ++ made ∧
      g.Creation x ((create g).on x).1 made := by
  rw [create_eq]
  -- The question about roles uses up no answer that the listing or the statement is given.
  by_cases hrole : g.kind = .role
  · have hprobed : x.askRoles.2.attempts = x.attempts ++ x.probe g := by
      rw [Exchange.probe, if_pos hrole]
      rfl
    rw [if_pos hrole, Action.on_bind, on_requireRoles]
    cases hanswer : x.askRoles.1 with
    | error e =>
      have hroles : ¬x.Admits g := by simp [Exchange.Admits, hrole, hanswer]
      exact ⟨_, hprobed, .unadmitted hroles nofun⟩
    | ok known =>
      cases known with
      | false =>
        have hroles : ¬x.Admits g := by simp [Exchange.Admits, hrole, hanswer]
        exact ⟨_, hprobed, .unadmitted hroles nofun⟩
      | true => exact createUnlessConflict_creation (fun _ => hanswer) rfl rfl hprobed
  · have hprobed : x.attempts = x.attempts ++ x.probe g := by
      rw [Exchange.probe, if_neg hrole, List.append_nil]
    rw [if_neg hrole]
    exact createUnlessConflict_creation (fun h => absurd h hrole) rfl rfl hprobed

end Reconcile

/-- A creation that executes nothing before its checks have passed, and tells by its result how far
it came. -/
structure Grant.IsGuarded (g : Grant) (x : Exchange) (result : Except Failure String)
    (made : List Attempt) : Prop where
  calls : ∃ asked, made.map (·.call) = (if g.kind = .role then [.supportsRoles] else []) ++ asked ∧
    asked <+: [.query ("SHOW GRANTS FOR " ++ g.identity.sql), .execute g.statement]
  executes_iff : .execute g.statement ∈ made.map (·.call) ↔ x.Admits g ∧ g.IsFree x.queryAnswer
  ok_iff : ∀ label, result = .ok label ↔
    label = g.identifier ∧ ⟨.execute g.statement, none⟩ ∈ made
  conflict_iff : ∀ who during, result = .error ⟨.conflict who, during⟩ ↔
    who = g.identity ∧ during = none ∧ x.Admits g ∧ g.IsBlocked x.queryAnswer

theorem Exchange.probe_calls (x : Exchange) (g : Grant) :
    (x.probe g).map (·.call) = if g.kind = .role then [.supportsRoles] else [] := by
  unfold probe
  split <;> rfl

theorem Exchange.not_mem_probe_calls (x : Exchange) (g : Grant) :
    .execute g.statement ∉ (x.probe g).map (·.call) := by
  rw [x.probe_calls]
  split <;> simp

theorem Exchange.not_mem_probe (x : Exchange) (g : Grant) (error : Option DatabaseError) :
    ⟨.execute g.statement, error⟩ ∉ x.probe g :=
  fun h => x.not_mem_probe_calls g (List.mem_map_of_mem h)

theorem Grant.Creation.isGuarded {g : Grant} {x : Exchange} {result : Except Failure String}
    {made : List Attempt} (h : g.Creation x result made) : g.IsGuarded x result made where
  calls := by
    cases h with
    | unadmitted => exact ⟨[], by simp [x.probe_calls], by simp⟩
    | unlisted | blocked =>
      exact ⟨_, by rw [List.map_append, x.probe_calls], ⟨[.execute g.statement], rfl⟩⟩
    | refused | created =>
      exact ⟨_, by rw [List.map_append, x.probe_calls], ⟨[], rfl⟩⟩
  -- Only the last two endings have a call behind the listing.
  executes_iff := by
    cases h with
    | unadmitted roles =>
      simp [x.not_mem_probe_calls, roles]
    | unlisted _ unfree =>
      simp [x.not_mem_probe_calls, Exchange.listing, unfree]
    | blocked _ hblocked =>
      simp [x.not_mem_probe_calls, Exchange.listing, hblocked.not_isFree]
    | refused roles hfree | created roles hfree =>
      simp [roles, hfree]
  ok_iff label := by
    cases h with
    | unadmitted => simp [x.not_mem_probe]
    | unlisted | blocked | refused => simp [x.not_mem_probe, Exchange.listing]
    | created => simp [eq_comm]
  conflict_iff who during := by
    cases h with
    | unadmitted roles other =>
      refine iff_of_false ?_ (fun h => roles h.2.2.1)
      rintro ⟨⟩
      exact other who rfl
    | unlisted _ _ unblocked other =>
      refine iff_of_false ?_ (fun h => unblocked h.2.2.2)
      rintro ⟨⟩
      exact other who rfl
    | blocked roles hblocked => simp [roles, hblocked, eq_comm]
    | refused _ hfree | created _ hfree =>
      exact iff_of_false nofun (fun h => h.2.2.2.not_isFree hfree)

namespace Reconcile

/-- A creation executes the statement of its grant exactly if the roles it needs are there and the
listing leaves its way free; it yields the identifier exactly if that statement was executed without
an error, and a conflict exactly if a listed grant stands in its way. -/
theorem create_guarded (g : Grant) (x : Exchange) :
    ∃ made, ((create g).on x).2.attempts = x.attempts ++ made ∧
      g.IsGuarded x ((create g).on x).1 made := by
  obtain ⟨made, hmade, hcreation⟩ := create_creation g x
  exact ⟨made, hmade, hcreation.isGuarded⟩

end Reconcile

end AccountGrants
