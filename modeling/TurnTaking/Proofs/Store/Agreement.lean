import TurnTaking.Engine.Turn
import TurnTaking.Proofs.Lease
import TurnTaking.Proofs.Store.Transaction
import TurnTaking.Session
import TurnTaking.Thread

/-!
# Agreement — runs on stores that a view does not tell apart

Two stores may differ in what a view leaves out. An access that neither reads nor decides by that comes to
the same on both, and leaves stores that the view does not tell apart either, as long as no statement fails
(`Agrees`).

* `Relation.Whole` — the view shows the table as it is;
* `Agrees.bind`, `Agrees.change`, … — the rules, one for each way to put accesses together;
* `Tables.apartFrom` — the view that leaves out the leases of some avatars; accesses to the leases of others
  agree (`Lease.acquire?_agrees`, `Lease.find?_agrees`, `Lease.settle_agrees`).
-/

namespace TurnTaking

open Store Store.Access

namespace Store

/-- The view shows the table as it is, and what is written there as it is written. -/
structure Relation.Whole {ρ : Type} (r : Relation ρ) (view : Tables → Tables) : Prop where
  get : ∀ t, r.get (view t) = r.get t
  set : ∀ t rows, view (r.set t rows) = r.set (view t) rows

namespace Access

variable {α β ρ : Type} {view : Tables → Tables}

/-- On stores that the view does not tell apart, the access comes to the same result and to stores that it
does not tell apart, wherever it comes to a result on both. It does so unless a statement fails. -/
structure Agrees (view : Tables → Tables) (a : Access α) : Prop extends Reports a where
  alike : ∀ {s t x y s' t'}, a.Runs s (.ok x) s' → a.Runs t (.ok y) t' →
    view s.tables = view t.tables → x = y ∧ view s'.tables = view t'.tables

namespace Agrees

theorem pure (x : α) : Agrees view (pure x : Access α) where
  toReports := .pure x
  alike := by
    intro s t y z s' t' hs ht hview
    obtain ⟨rfl, rfl⟩ := runs_pure_ok hs
    obtain ⟨rfl, rfl⟩ := runs_pure_ok ht
    exact ⟨rfl, hview⟩

theorem bind {a : Access α} {f : α → Access β} (ha : Agrees view a) (hf : ∀ x, Agrees view (f x)) :
    Agrees view (a >>= f) where
  toReports := ha.toReports.bind fun x => (hf x).toReports
  alike := by
    intro s t x y s'' t'' hs ht hview
    obtain ⟨u, s', hs₁, hs₂⟩ := runs_bind_ok hs
    obtain ⟨v, t', ht₁, ht₂⟩ := runs_bind_ok ht
    obtain ⟨rfl, hview'⟩ := ha.alike hs₁ ht₁ hview
    exact (hf u).alike hs₂ ht₂ hview'

/-- A statement on a table that the view shows whole agrees. -/
theorem statement {r : Relation ρ} (hr : r.Whole view)
    (f : List ρ → Except StatementFault (α × List ρ)) : Agrees view (statement r f) where
  toReports := .statement r f
  alike := by
    intro s t x y s' t' hs ht hview
    obtain ⟨rows, next, hrows, hf, hs'⟩ := runs_statement_ok hs
    obtain ⟨rows', next', hrows', hf', ht'⟩ := runs_statement_ok ht
    -- both find the same rows, and so leave the same
    have hsame : rows = rows' := by
      rw [← hr.get, hview, hr.get, hrows'] at hrows
      exact (Option.some.inj hrows).symm
    rw [hsame, hf'] at hf
    obtain ⟨rfl, rfl⟩ := Prod.mk.inj (Except.ok.inj hf)
    rw [hs', ht', hr.set, hr.set, hview]
    exact ⟨rfl, rfl⟩

theorem change {r : Relation ρ} (hr : r.Whole view) (f : List ρ → α × List ρ) :
    Agrees view (change r f) := statement hr _

theorem query {r : Relation ρ} (hr : r.Whole view) (f : List ρ → Except StatementFault α) :
    Agrees view (query r f) where
  toReports := .query r f
  alike := by
    intro s t x y s' t' hs ht hview
    obtain ⟨rows, hrows, hf, hs'⟩ := runs_query_ok hs
    obtain ⟨rows', hrows', hf', ht'⟩ := runs_query_ok ht
    have hsame : rows = rows' := by
      rw [← hr.get, hview, hr.get, hrows'] at hrows
      exact (Option.some.inj hrows).symm
    rw [hsame, hf'] at hf
    rw [hs', ht', hview]
    exact ⟨(Except.ok.inj hf).symm, rfl⟩

/-- A transaction agrees if its statements do. -/
theorem atomically {act : Access α} (ha : Agrees view act) : Agrees view (atomically act) where
  toReports := ha.toReports.atomically.toReports
  alike := by
    intro s t x y s' t' hs ht hview
    obtain ⟨s₁, s₂, hs₁, hact, hs₂⟩ := runs_atomically_ok hs
    obtain ⟨t₁, t₂, ht₁, hact', ht₂⟩ := runs_atomically_ok ht
    rw [hs₂, ht₂]
    refine ha.alike hact hact' ?_
    rw [hs₁, ht₁]
    exact hview

end Agrees

end Access

/-! ## Leases of some avatars -/

/-- The lease is that of none of these avatars. -/
def LeaseRow.isApart (F : String → Bool) (r : LeaseRow) : Bool := !F r.avatarId

/-- The tables without the leases of some avatars. -/
def Tables.apartFrom (F : String → Bool) (t : Tables) : Tables :=
  { t with leases := t.leases.map (List.filter (LeaseRow.isApart F)) }

/-- Two tables apart from a set have the same rows outside it. -/
theorem Tables.apartFrom_leases {F : String → Bool} {s t : Tables} {rows rows' : List LeaseRow}
    (h : s.apartFrom F = t.apartFrom F) (hs : s.leases = some rows) (ht : t.leases = some rows') :
    rows.filter (LeaseRow.isApart F) = rows'.filter (LeaseRow.isApart F) := by
  have hboth := congrArg Tables.leases h
  rw [Tables.apartFrom, Tables.apartFrom, hs, ht] at hboth
  exact Option.some.inj hboth

namespace Access.Agrees

variable {α : Type} {F : String → Bool}

/-- A statement that finds and leaves the same among the other leases as among all. -/
theorem changeLeases {f : List LeaseRow → α × List LeaseRow}
    (hf : ∀ rows, f (rows.filter (LeaseRow.isApart F)) =
      ((f rows).1, (f rows).2.filter (LeaseRow.isApart F))) :
    Agrees (Tables.apartFrom F) (Access.change .leases f) where
  toReports := .change _ _
  alike := by
    intro s t x y s' t' hs ht hview
    obtain ⟨rows, hleases, rfl, hs'⟩ := runs_change_ok hs
    obtain ⟨rows', hleases', rfl, ht'⟩ := runs_change_ok ht
    have hsame := Tables.apartFrom_leases hview hleases hleases'
    -- what is left out before a write is what is left out after it
    have hset : ∀ t rows, (Relation.leases.set t (some rows)).apartFrom F =
        Relation.leases.set (t.apartFrom F) (some (rows.filter (LeaseRow.isApart F))) :=
      fun _ _ => rfl
    have hboth := hf rows
    rw [hsame, hf rows'] at hboth
    obtain ⟨hanswer, hrows⟩ := Prod.mk.inj hboth
    rw [hs', ht', hset, hset, hview, hanswer, hrows]
    exact ⟨rfl, rfl⟩

/-- A look-up that finds the same among the other leases as among all. -/
theorem queryLeases {f : List LeaseRow → Except StatementFault α}
    (hf : ∀ rows, f (rows.filter (LeaseRow.isApart F)) = f rows) :
    Agrees (Tables.apartFrom F) (Access.query .leases f) where
  toReports := .query _ _
  alike := by
    intro s t x y s' t' hs ht hview
    obtain ⟨rows, hleases, hx, hs'⟩ := runs_query_ok hs
    obtain ⟨rows', hleases', hy, ht'⟩ := runs_query_ok ht
    rw [← hf, Tables.apartFrom_leases hview hleases hleases', hf, hy] at hx
    rw [hs', ht', hview]
    exact ⟨(Except.ok.inj hx).symm, rfl⟩

end Access.Agrees

end Store

/-! ## The accesses of turns -/

section

variable {view : Tables → Tables}

theorem Lock.tryGuard_agrees (h : Relation.locks.Whole view) (ttl : Int) (channel avatar : String)
    (now : Int) : Agrees view (tryGuard ttl channel avatar now) := by
  refine .bind (.change h _) fun acquired => ?_
  cases acquired with
  | true => exact .pure _
  | false => exact .pure _

theorem Lock.Guard.drop_agrees (h : Relation.locks.Whole view) (g : Guard) : Agrees view g.drop :=
  .bind (.change h _) fun _ => .pure _

theorem Gate.admitResponder_agrees (h : Relation.responders.Whole view) (c : Config.Gate) (r : Request)
    (now : Int) : Agrees view (admitResponder c r now) := by
  refine .bind (.query h _) fun responders => ?_
  split
  · exact .pure _
  · split
    · exact .pure _
    · exact .bind (.statement h _) fun _ => .pure _

theorem Gate.enter_agrees (hresponders : Relation.responders.Whole view)
    (hactivity : Relation.activity.Whole view) (c : Config.Gate) (r : Request) (now : Int) :
    Agrees view (enter c r now) := by
  have hadmit := admitResponder_agrees hresponders c r now
  refine .atomically ?_
  dsimp only
  split
  · refine .bind (.query hactivity _) fun last => ?_
    split
    · exact .pure _
    · exact hadmit
  · exact hadmit

theorem Gate.revoke_agrees (h : Relation.responders.Whole view) (key avatar : String) :
    Agrees view (revoke key avatar) := .bind (.change h _) fun _ => .pure _

theorem Engine.recordRows_agrees {σ : Type} (hpresence : Relation.presence.Whole view)
    (hsent : Relation.sent.Whole view) (hactivity : Relation.activity.Whole view) (e : Engine σ)
    (r : Turn.Request) (sent : Turn.Sent) : Agrees view (e.recordRows r sent) :=
  .bind (.change hpresence _) fun _ => .bind (.change hsent _) fun _ => .change hactivity _

theorem Thread.recordTurn_agrees (h : Relation.threads.Whole view) (ttl : Int) (id speaker : String)
    (now : Int) : Agrees view (recordTurn ttl id speaker now) :=
  .bind (.change h _) fun _ => .pure _

theorem Session.recordResponse_agrees (h : Relation.sessions.Whole view)
    (channel user avatar : String) (now : Int) :
    Agrees view (recordResponse channel user avatar now) := .change h _

end

/-- The view shows the tables that a turn reads and writes, besides its lease, as they are. -/
structure TurnTables (view : Tables → Tables) : Prop where
  locks : Relation.locks.Whole view
  responders : Relation.responders.Whole view
  presence : Relation.presence.Whole view
  activity : Relation.activity.Whole view
  sent : Relation.sent.Whole view
  threads : Relation.threads.Whole view
  sessions : Relation.sessions.Whole view

/-- A view that leaves out some leases shows all of the other tables. -/
theorem Store.Tables.apartFrom_turnTables (F : String → Bool) : TurnTables (Tables.apartFrom F) where
  locks := ⟨fun _ => rfl, fun _ _ => rfl⟩
  responders := ⟨fun _ => rfl, fun _ _ => rfl⟩
  presence := ⟨fun _ => rfl, fun _ _ => rfl⟩
  activity := ⟨fun _ => rfl, fun _ _ => rfl⟩
  sent := ⟨fun _ => rfl, fun _ _ => rfl⟩
  threads := ⟨fun _ => rfl, fun _ _ => rfl⟩
  sessions := ⟨fun _ => rfl, fun _ _ => rfl⟩

/-! ## The accesses of leases -/

namespace Lease

variable {F : String → Bool} {avatar : String}

/-- The leases of an avatar that is none of these are all apart. -/
theorem isApart_of_key (h : F avatar = false) {channel : String} {tick : Nat} :
    ∀ r : LeaseRow, r.key = rowKey channel avatar tick → LeaseRow.isApart F r = true := by
  intro r hr
  have havatar : r.avatarId = avatar := congrArg (fun k => k.2.1) hr
  rw [LeaseRow.isApart, havatar, h]
  rfl

/-- Whether the avatar's own lease was taken is seen among those that are not left out. -/
theorem acquire?_agrees (h : F avatar = false) (ttl : Int) (channel : String) (tick : Nat)
    (origin : Origin) (now : Int) :
    Agrees (Tables.apartFrom F) (acquire? ttl channel avatar tick origin now) := by
  have htake : Agrees (Tables.apartFrom F) (tryTake ttl channel avatar tick origin now) :=
    .changeLeases (Table.add_filter (isApart_of_key h))
  refine htake.bind fun taken => ?_
  cases taken with
  | true => exact .pure _
  | false => exact .pure _

/-- The leases outside the set are found alike. -/
theorem find?_agrees (h : F avatar = false) (channel : String) (tick : Nat) :
    Agrees (Tables.apartFrom F) (find? channel avatar tick) := by
  refine Agrees.queryLeases fun rows => ?_
  rw [Table.lookup_filter (isApart_of_key h)]

/-- The leases outside the set are settled alike. -/
theorem settle_agrees (h : F avatar = false) (channel : String) (tick : Nat) (status : Status)
    (error : Option String) (clock : Int) :
    Agrees (Tables.apartFrom F) (settle channel avatar tick status error clock) := by
  have hsettled : ∀ r : LeaseRow, LeaseRow.isApart F { r with
      status := status.name, error := error, finishedAt := some (.number clock) } =
      LeaseRow.isApart F r := fun _ => rfl
  refine Agrees.bind (Agrees.changeLeases (Table.amend_filter (fun r hr => ?_) hsettled)) fun _ => .pure _
  rw [Bool.and_eq_true] at hr
  exact isApart_of_key h r (of_decide_eq_true hr.1)

/-! ## Leases that are left out -/

/-- A statement about the leases that leaves the others as they are is not seen among those. -/
theorem frames_leases {α : Type} {f : List LeaseRow → α × List LeaseRow}
    (hf : ∀ rows, (f rows).2.filter (LeaseRow.isApart F) = rows.filter (LeaseRow.isApart F)) :
    Frames (Tables.apartFrom F) (change .leases f) := by
  refine .change_of fun t rows hrows => ?_
  have hleases : t.leases = some rows := hrows
  rw [Tables.apartFrom, Tables.apartFrom, hleases, Option.map_some, ← hf rows]
  rfl

/-- The lease of one of these avatars is left out. -/
theorem acquire?_apart (h : F avatar = true) (ttl : Int) (channel : String) (tick : Nat)
    (origin : Origin) (now : Int) :
    Frames (Tables.apartFrom F) (acquire? ttl channel avatar tick origin now) := by
  have hrow : LeaseRow.isApart F (takenRow ttl channel avatar tick origin now) = false := by
    show (!F avatar) = false
    rw [h]
    rfl
  refine (frames_leases (Table.filter_add hrow)).bind fun taken => ?_
  cases taken with
  | true => exact .pure _
  | false => exact .pure _

/-- Settling it changes no other. -/
theorem settle_apart (h : F avatar = true) (channel : String) (tick : Nat) (status : Status)
    (error : Option String) (clock : Int) :
    Frames (Tables.apartFrom F) (settle channel avatar tick status error clock) := by
  have hsettled : ∀ r : LeaseRow, LeaseRow.isApart F { r with
      status := status.name, error := error, finishedAt := some (.number clock) } =
      LeaseRow.isApart F r := fun _ => rfl
  refine Frames.bind (frames_leases (Table.filter_amend (fun r hr => ?_) hsettled)) fun _ => .pure _
  rw [Bool.and_eq_true] at hr
  have havatar : r.avatarId = avatar := congrArg (fun k => k.2.1) (of_decide_eq_true hr.1)
  rw [LeaseRow.isApart, havatar, h]
  rfl

end Lease

end TurnTaking
