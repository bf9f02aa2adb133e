import SaasOs.PermissionGrants.DeletionRequests

/-!
# No two live deletion requests

A request can come to life again only by an approval under way that read the clock before the
request expired; such a request is kept alive here (`Alive`).  Alive requests never share a tenant,
and neither does an alive request with the scope of a new one whose check passed (`Sound`): the
locks on the tenant rows exclude every other transaction from the check to the commit, and time and
revocations only end a life.  So at every instant of every run at most one live request names a
tenant (`atMostOneLive`).
-/

namespace SaasOs.PermissionGrants

/-! ## Liveness -/

variable {consumedAt invalidatedAt : Option Instant}

lemma recordRefusal_eq_none {expiresAt at' : Instant} :
    recordRefusal consumedAt invalidatedAt expiresAt at' = none ↔
      consumedAt = none ∧ invalidatedAt = none ∧ at' < expiresAt := by
  unfold recordRefusal
  split_ifs with hconsumed hinvalidated hexpired
  · simp only [false_iff]
    exact fun h => hconsumed h.1
  · simp only [false_iff]
    exact fun h => hinvalidated h.2.1
  · simp only [false_iff]
    exact fun h => absurd hexpired (not_le.mpr h.2.2)
  · simp only [true_iff]
    exact ⟨not_not.mp hconsumed, not_not.mp hinvalidated, not_le.mp hexpired⟩

lemma recordRefusal_of_le {expiresAt at' later : Instant} (hle : at' ≤ later)
    (h : recordRefusal consumedAt invalidatedAt expiresAt later = none) :
    recordRefusal consumedAt invalidatedAt expiresAt at' = none := by
  obtain ⟨hconsumed, hinvalidated, hlt⟩ := recordRefusal_eq_none.mp h
  exact recordRefusal_eq_none.mpr ⟨hconsumed, hinvalidated, lt_of_le_of_lt hle hlt⟩

variable {at' : Instant}

lemma isLive_state {ledger : DeletionLedger} {request : DeletionRequest} :
    (ledger.state request at').IsLive ↔
      ledger.approvalOf request.id = none ∧ at' < request.expiresAt ∨
        ∃ approval, ledger.approvalOf request.id = some approval ∧
          approvalRefusal approval at' = none := by
  unfold DeletionLedger.state deletionState DeletionState.IsLive approvalRefusal
  cases happroval : ledger.approvalOf request.id with
  | none =>
    dsimp only
    split_ifs with hlt
    · simp [hlt]
    · simp [hlt]
  | some approval =>
    simp only [reduceCtorEq, false_and, Option.some.injEq, exists_eq_left', false_or,
      recordRefusal_eq_none]
    split_ifs with hconsumed hinvalidated hlt
    · simp [hconsumed]
    · simp [hinvalidated]
    · simp [not_not.mp hconsumed, not_not.mp hinvalidated, hlt]
    · simp [hlt]

lemma Overlap.symm {scope scope' : List Uuid} (h : Overlap scope scope') : Overlap scope' scope := by
  obtain ⟨tenantId, hmem, hmem'⟩ := h
  exact ⟨tenantId, hmem', hmem⟩

lemma overlap_self {scope : List Uuid} (h : scope ≠ []) : Overlap scope scope := by
  obtain ⟨tenantId, hmem⟩ := List.exists_mem_of_ne_nil scope h
  exact ⟨tenantId, hmem, hmem⟩

lemma unique_cons {α : Type*} {R : α → α → Prop} {row : α} {rows : List α}
    (hrows : ∀ first ∈ rows, ∀ second ∈ rows, R first second → first = second)
    (hnew : ∀ other ∈ rows, ¬ R row other ∧ ¬ R other row) :
    ∀ first ∈ row :: rows, ∀ second ∈ row :: rows, R first second → first = second := by
  intro first hfirst second hsecond hrelated
  rcases List.mem_cons.mp hfirst with hrow | hold
  · rcases List.mem_cons.mp hsecond with hrow' | hold'
    · exact hrow.trans hrow'.symm
    · rw [hrow] at hrelated
      exact absurd hrelated (hnew second hold').1
  · rcases List.mem_cons.mp hsecond with hrow' | hold'
    · rw [hrow'] at hrelated
      exact absurd hrelated (hnew first hold).2
    · exact hrows first hold second hold' hrelated

/-! ## The invariant -/

def DeletionPhase.remaining : DeletionPhase → List Uuid
  | locking remaining => remaining
  | timed _ => []
  | checked => []
  | written _ => []

def DeletionTransaction.Reserves (transaction : DeletionTransaction) : Prop :=
  transaction.phase = .checked ∨ ∃ write, transaction.phase = .written write

def DeletionTransaction.MayApprove (transaction : DeletionTransaction) (request : DeletionRequest) :
    Prop :=
  transaction.operation = .approve request ∧
    (transaction.Reserves ∨ ∃ at', transaction.phase = .timed at' ∧ at' < request.expiresAt)

def DeletionOperation.Writes (ledger : DeletionLedger) : DeletionOperation → DeletionWrite → Prop
  | request scope, .request row => row.tenantIds = scope
  | approve subject, .approval row => row.requestId = subject.id
  | authorize subject, .authorization row =>
    ∃ approval, ledger.approvalOf subject.id = some approval ∧ row.approvalId = approval.id
  | execute _ _ _, .consumed _ _ _ => True
  | _, _ => False

lemma DeletionTransaction.Reserves.remaining {transaction : DeletionTransaction}
    (h : transaction.Reserves) : transaction.phase.remaining = [] := by
  rcases h with hphase | ⟨write, hphase⟩
  · rw [hphase]
    rfl
  · rw [hphase]
    rfl

lemma DeletionTransaction.MayApprove.remaining {transaction : DeletionTransaction}
    {request : DeletionRequest} (h : transaction.MayApprove request) :
    transaction.phase.remaining = [] := by
  rcases h.2 with hreserves | ⟨at', hphase, -⟩
  · exact hreserves.remaining
  · rw [hphase]
    rfl

namespace DeletionSystem

def Alive (system : DeletionSystem) (request : DeletionRequest) : Prop :=
  system.ledger.approvalOf request.id = none ∧ (system.clock < request.expiresAt ∨
    ∃ n, ∃ transaction ∈ system.transactions n, transaction.MayApprove request) ∨
  ∃ approval, system.ledger.approvalOf request.id = some approval ∧
    approvalRefusal approval system.clock = none

/-- What a transaction under way may rely on. -/
structure Fits (system : DeletionSystem) (transaction : DeletionTransaction) : Prop where
  scope_ne : transaction.operation.scope ≠ []
  subject : ∀ request ∈ transaction.operation.subject, request ∈ system.ledger.requests
  timed : ∀ at', transaction.phase = .timed at' → at' ≤ system.clock
  /-- No alive request overlaps a new one whose check passed. -/
  reserved : ∀ scope, transaction.operation = .request scope → transaction.Reserves →
    ∀ request ∈ system.ledger.requests, system.Alive request → ¬ Overlap request.tenantIds scope
  unapproved : ∀ request, transaction.operation = .approve request → transaction.Reserves →
    system.ledger.approvalOf request.id = none
  unauthorized : ∀ request, transaction.operation = .authorize request → transaction.Reserves →
    ∃ approval, system.ledger.approvalOf request.id = some approval ∧
      ∀ authorization ∈ system.ledger.authorizations, authorization.approvalId = approval.id →
        authorizationRefusal authorization system.clock ≠ none
  written : ∀ write, transaction.phase = .written write →
    transaction.operation.Writes system.ledger write

/-- What every state of a run satisfies. -/
structure Sound (system : DeletionSystem) : Prop where
  fits : ∀ n, ∀ transaction ∈ system.transactions n, system.Fits transaction
  holds : ∀ n, ∀ transaction ∈ system.transactions n, ∀ tenantId ∈ transaction.operation.scope,
    tenantId ∈ transaction.phase.remaining ∨ system.locks.HoldsExclusively n tenantId
  scopes : ∀ request ∈ system.ledger.requests, request.tenantIds ≠ []
  ids : ∀ first ∈ system.ledger.requests, ∀ second ∈ system.ledger.requests,
    first.id = second.id → first = second
  approvalIds : ∀ first ∈ system.ledger.approvals, ∀ second ∈ system.ledger.approvals,
    first.id = second.id → first = second
  alone : ∀ first ∈ system.ledger.requests, ∀ second ∈ system.ledger.requests,
    system.Alive first → system.Alive second → Overlap first.tenantIds second.tenantIds →
    first = second
  approval : ∀ first ∈ system.ledger.approvals, ∀ second ∈ system.ledger.approvals,
    first.requestId = second.requestId → first = second
  authorization : ∀ first ∈ system.ledger.authorizations,
    ∀ second ∈ system.ledger.authorizations, first.approvalId = second.approvalId →
    authorizationRefusal first system.clock = none →
    authorizationRefusal second system.clock = none → first = second

variable {system : DeletionSystem}

lemma Sound.oneLive (h : system.Sound) : system.OneLive where
  request first hfirst second hsecond hlive hlive' hoverlap := by
    have halive : ∀ {request}, (system.ledger.state request system.clock).IsLive →
        system.Alive request := by
      intro request hlive
      rcases isLive_state.mp hlive with ⟨hnone, hlt⟩ | hsome
      · exact Or.inl ⟨hnone, Or.inl hlt⟩
      · exact Or.inr hsome
    exact h.alone first hfirst second hsecond (halive hlive) (halive hlive') hoverlap
  approval := h.approval
  authorization := h.authorization

lemma sound_start (clock : Instant) : (start clock).Sound where
  fits _ transaction htransaction := by cases htransaction
  holds _ transaction htransaction := by cases htransaction
  scopes request hrequest := by cases hrequest
  ids first hfirst := by cases hfirst
  approvalIds first hfirst := by cases hfirst
  alone first hfirst := by cases hfirst
  approval first hfirst := by cases hfirst
  authorization first hfirst := by cases hfirst

variable {n m : ℕ}

lemma Sound.not_overlap (h : system.Sound) {transaction transaction' : DeletionTransaction}
    (hn : system.transactions n = some transaction) (hm : system.transactions m = some transaction')
    (hne : n ≠ m) (hlocked : transaction.phase.remaining = [])
    (hlocked' : transaction'.phase.remaining = []) :
    ¬ Overlap transaction.operation.scope transaction'.operation.scope := by
  rintro ⟨tenantId, hmem, hmem'⟩
  have hheld := h.holds n transaction hn tenantId hmem
  have hheld' := h.holds m transaction' hm tenantId hmem'
  rw [hlocked] at hheld
  rw [hlocked'] at hheld'
  have hmine := hheld.resolve_left List.not_mem_nil
  have htheirs := hheld'.resolve_left List.not_mem_nil
  exact LockTable.not_both_exclusive hne hmine htheirs

variable {transaction : DeletionTransaction}

variable {new : Option DeletionTransaction}

lemma transactions_update {transactions : ℕ → Option DeletionTransaction}
    (h : transaction ∈ Function.update transactions n new m) :
    m = n ∧ transaction ∈ new ∨ m ≠ n ∧ transactions m = some transaction := by
  by_cases hm : m = n
  · subst hm
    rw [Function.update_self] at h
    exact Or.inl ⟨rfl, h⟩
  · rw [Function.update_of_ne hm] at h
    exact Or.inr ⟨hm, h⟩

variable {ledger : DeletionLedger}

lemma transactions_finish (h : transaction ∈ (system.finish n ledger).transactions m) :
    m ≠ n ∧ system.transactions m = some transaction := by
  rcases transactions_update h with ⟨-, hnew⟩ | hold
  · cases hnew
  · exact hold

variable {request : DeletionRequest}

lemma Alive.of_finish (happrovals : ledger.approvals = system.ledger.approvals)
    (h : (system.finish n ledger).Alive request) : system.Alive request := by
  have hsame : ∀ id, ledger.approvalOf id = system.ledger.approvalOf id := by
    intro id
    unfold DeletionLedger.approvalOf
    rw [happrovals]
  rcases h with ⟨hnone, hlife⟩ | ⟨approval, happroval, hlive⟩
  · refine Or.inl ⟨(hsame request.id).symm.trans hnone, hlife.imp_right ?_⟩
    rintro ⟨m, transaction, hmem, hmay⟩
    exact ⟨m, transaction, (transactions_finish hmem).2, hmay⟩
  · exact Or.inr ⟨approval, (hsame request.id).symm.trans happroval, hlive⟩

lemma Sound.holds_finish (h : system.Sound) (n : ℕ) (ledger : DeletionLedger) :
    ∀ m, ∀ transaction ∈ (system.finish n ledger).transactions m,
      ∀ tenantId ∈ transaction.operation.scope, tenantId ∈ transaction.phase.remaining ∨
        (system.finish n ledger).locks.HoldsExclusively m tenantId := by
  intro m transaction hmem tenantId htenant
  obtain ⟨hne, hm⟩ := transactions_finish hmem
  exact (h.holds m transaction hm tenantId htenant).imp_right fun hheld => hheld.of_release hne

variable {operation : DeletionOperation} {write : DeletionWrite}

lemma writes_of_approval {ledger ledger' : DeletionLedger} (h : operation.Writes ledger write)
    (hkept : ∀ request approval, operation = .authorize request →
      ledger.approvalOf request.id = some approval →
      ∃ approval', ledger'.approvalOf request.id = some approval' ∧ approval'.id = approval.id) :
    operation.Writes ledger' write := by
  cases operation with
  | request scope => cases write <;> exact h
  | approve subject => cases write <;> exact h
  | execute subject approvalId authorizationId => cases write <;> exact h
  | authorize subject =>
    cases write with
    | request row => exact h
    | approval row => exact h
    | consumed approvalId authorizationId at' => exact h
    | authorization row =>
      obtain ⟨approval, happroval, hrow⟩ := h
      obtain ⟨approval', happroval', hid⟩ := hkept subject approval rfl happroval
      exact ⟨approval', happroval', hrow.trans hid.symm⟩

lemma Fits.of_less {system system' : DeletionSystem} (h : system.Fits transaction)
    (hrequests : system'.ledger.requests = system.ledger.requests)
    (hclock : system.clock ≤ system'.clock)
    (halive : ∀ request ∈ system.ledger.requests, system'.Alive request → system.Alive request)
    (hnone : ∀ id, system.ledger.approvalOf id = none → system'.ledger.approvalOf id = none)
    (hsome : ∀ id approval, system.ledger.approvalOf id = some approval →
      ∃ approval', system'.ledger.approvalOf id = some approval' ∧ approval'.id = approval.id)
    (hlive : ∀ authorization' ∈ system'.ledger.authorizations,
      authorizationRefusal authorization' system'.clock = none →
      ∃ authorization ∈ system.ledger.authorizations,
        authorization.approvalId = authorization'.approvalId ∧
        authorizationRefusal authorization system.clock = none) :
    system'.Fits transaction := by
  refine ⟨h.scope_ne, ?_, ?_, ?_, ?_, ?_, ?_⟩
  · rw [hrequests]
    exact h.subject
  · exact fun at' hphase => (h.timed at' hphase).trans hclock
  · rw [hrequests]
    intro scope hoperation hreserves request hrequest hnew
    exact h.reserved scope hoperation hreserves request hrequest (halive request hrequest hnew)
  · exact fun request hoperation hreserves =>
      hnone request.id (h.unapproved request hoperation hreserves)
  · intro request hoperation hreserves
    obtain ⟨approval, happroval, hdead⟩ := h.unauthorized request hoperation hreserves
    obtain ⟨approval', happroval', hid⟩ := hsome request.id approval happroval
    refine ⟨approval', happroval', fun authorization' hmem hof hnew => ?_⟩
    obtain ⟨authorization, hold, hsame, hwas⟩ := hlive authorization' hmem hnew
    exact hdead authorization hold (hsame.trans (hof.trans hid)) hwas
  · exact fun write hphase => writes_of_approval (h.written write hphase)
      fun request approval _ happroval => hsome request.id approval happroval

/-! ## Steps that only end lives -/

lemma Sound.replace (h : system.Sound) {locks : LockTable Uuid ℕ}
    (hlocks : ∀ m, m ≠ n → ∀ tenantId, system.locks.HoldsExclusively m tenantId →
      locks.HoldsExclusively m tenantId)
    (hfits : ∀ transaction ∈ new, system.Fits transaction)
    (hholds : ∀ transaction ∈ new, ∀ tenantId ∈ transaction.operation.scope,
      tenantId ∈ transaction.phase.remaining ∨ locks.HoldsExclusively n tenantId)
    (halive : ∀ transaction ∈ new, ∀ request, transaction.MayApprove request →
      system.ledger.approvalOf request.id = none → system.Alive request) :
    Sound { system with
      locks := locks
      transactions := Function.update system.transactions n new } := by
  have hless : ∀ request, Alive { system with
      locks := locks
      transactions := Function.update system.transactions n new } request →
      system.Alive request := by
    rintro request (⟨hnone, hlt | ⟨m, transaction, hmem, hmay⟩⟩ | hsome)
    · exact Or.inl ⟨hnone, Or.inl hlt⟩
    · rcases transactions_update hmem with ⟨-, hnew⟩ | ⟨-, hm⟩
      · exact halive transaction hnew request hmay hnone
      · exact Or.inl ⟨hnone, Or.inr ⟨m, transaction, hm, hmay⟩⟩
    · exact Or.inr hsome
  refine ⟨?_, ?_, h.scopes, h.ids, h.approvalIds, ?_, h.approval, h.authorization⟩
  · intro m transaction hmem
    have hold : system.Fits transaction := by
      rcases transactions_update hmem with ⟨-, hnew⟩ | ⟨-, hm⟩
      · exact hfits transaction hnew
      · exact h.fits m transaction hm
    exact hold.of_less rfl le_rfl (fun request _ => hless request) (fun _ => id)
      (fun _ approval happroval => ⟨approval, happroval, rfl⟩)
      (fun authorization hauthorization hlive => ⟨authorization, hauthorization, rfl, hlive⟩)
  · intro m transaction hmem tenantId htenant
    rcases transactions_update hmem with ⟨rfl, hnew⟩ | ⟨hne, hm⟩
    · exact hholds transaction hnew tenantId htenant
    · exact (h.holds m transaction hm tenantId htenant).imp_right (hlocks m hne tenantId)
  · intro first hfirst second hsecond hlive hlive'
    exact h.alone first hfirst second hsecond (hless first hlive) (hless second hlive')

lemma Sound.abort (h : system.Sound) (n : ℕ) :
    (system.finish n system.ledger).Sound :=
  h.replace (fun _ hne _ hheld => hheld.of_release hne)
    (fun transaction hnew => absurd hnew (Option.not_mem_none transaction))
    (fun transaction hnew => absurd hnew (Option.not_mem_none transaction))
    (fun transaction hnew => absurd hnew (Option.not_mem_none transaction))

/-- A change of the approvals one by one that brings none of them to life. -/
structure EndsApprovals (change : DeletionApproval → DeletionApproval) : Prop where
  id : ∀ row, (change row).id = row.id
  requestId : ∀ row, (change row).requestId = row.requestId
  live : ∀ row at', approvalRefusal (change row) at' = none → approvalRefusal row at' = none

/-- A change of the authorisations one by one that brings none of them to life. -/
structure EndsAuthorizations (change : ExecutionAuthorization → ExecutionAuthorization) :
    Prop where
  approvalId : ∀ row, (change row).approvalId = row.approvalId
  live : ∀ row at', authorizationRefusal (change row) at' = none →
    authorizationRefusal row at' = none

lemma approvalOf_settle {approval : DeletionApproval → DeletionApproval}
    (happroval : EndsApprovals approval)
    (authorization : ExecutionAuthorization → ExecutionAuthorization) (requestId : Uuid) :
    (ledger.settle approval authorization).approvalOf requestId =
      (ledger.approvalOf requestId).map approval := by
  unfold DeletionLedger.approvalOf DeletionLedger.settle
  rw [List.find?_map]
  simp only [Function.comp_def, happroval.requestId]

lemma Sound.less {system : DeletionSystem} (h : system.Sound) {clock : Instant}
    {approval : DeletionApproval → DeletionApproval}
    {authorization : ExecutionAuthorization → ExecutionAuthorization} {locks : LockTable Uuid ℕ}
    {transactions : ℕ → Option DeletionTransaction} (hclock : system.clock ≤ clock)
    (happroval : EndsApprovals approval) (hauthorization : EndsAuthorizations authorization)
    (htransactions : ∀ m, ∀ transaction ∈ transactions m,
      system.transactions m = some transaction ∧ ∀ tenantId,
        system.locks.HoldsExclusively m tenantId → locks.HoldsExclusively m tenantId) :
    Sound ⟨clock, system.ledger.settle approval authorization, locks, transactions⟩ := by
  have hlast : ∀ {row}, approvalRefusal (approval row) clock = none →
      approvalRefusal row system.clock = none :=
    fun hlive => recordRefusal_of_le hclock (happroval.live _ _ hlive)
  have hlast' : ∀ {row}, authorizationRefusal (authorization row) clock = none →
      authorizationRefusal row system.clock = none :=
    fun hlive => recordRefusal_of_le hclock (hauthorization.live _ _ hlive)
  have hless : ∀ request,
      Alive ⟨clock, system.ledger.settle approval authorization, locks, transactions⟩ request →
      system.Alive request := by
    intro request halive
    unfold Alive at halive
    rw [approvalOf_settle happroval] at halive
    rcases halive with ⟨hnone, hlife⟩ | ⟨row', hrow', hlive⟩
    · refine Or.inl ⟨Option.map_eq_none_iff.mp hnone, ?_⟩
      rcases hlife with hlt | ⟨m, transaction, hmem, hmay⟩
      · exact Or.inl (lt_of_le_of_lt hclock hlt)
      · exact Or.inr ⟨m, transaction, (htransactions m transaction hmem).1, hmay⟩
    · obtain ⟨row, hrow, rfl⟩ := Option.map_eq_some_iff.mp hrow'
      exact Or.inr ⟨row, hrow, hlast hlive⟩
  refine ⟨?_, ?_, h.scopes, h.ids, ?_, ?_, ?_, ?_⟩
  · intro m transaction hmem
    refine (h.fits m transaction (htransactions m transaction hmem).1).of_less rfl hclock
      (fun request _ => hless request) ?_ ?_ ?_
    · intro id hnone
      rw [approvalOf_settle happroval, hnone]
      rfl
    · intro id row hrow
      refine ⟨approval row, ?_, happroval.id row⟩
      rw [approvalOf_settle happroval, hrow]
      rfl
    · intro row' hrow' hlive
      obtain ⟨row, hrow, rfl⟩ := List.mem_map.mp hrow'
      exact ⟨row, hrow, (hauthorization.approvalId row).symm, hlast' hlive⟩
  · intro m transaction hmem tenantId htenant
    obtain ⟨hold, hlocks⟩ := htransactions m transaction hmem
    exact (h.holds m transaction hold tenantId htenant).imp_right (hlocks tenantId)
  · intro first hfirst second hsecond hid
    obtain ⟨row, hrow, rfl⟩ := List.mem_map.mp hfirst
    obtain ⟨row', hrow', rfl⟩ := List.mem_map.mp hsecond
    rw [happroval.id, happroval.id] at hid
    rw [h.approvalIds row hrow row' hrow' hid]
  · intro first hfirst second hsecond hlive hlive'
    exact h.alone first hfirst second hsecond (hless first hlive) (hless second hlive')
  · intro first hfirst second hsecond hid
    obtain ⟨row, hrow, rfl⟩ := List.mem_map.mp hfirst
    obtain ⟨row', hrow', rfl⟩ := List.mem_map.mp hsecond
    rw [happroval.requestId, happroval.requestId] at hid
    rw [h.approval row hrow row' hrow' hid]
  · intro first hfirst second hsecond hid hlive hlive'
    obtain ⟨row, hrow, rfl⟩ := List.mem_map.mp hfirst
    obtain ⟨row', hrow', rfl⟩ := List.mem_map.mp hsecond
    rw [hauthorization.approvalId, hauthorization.approvalId] at hid
    rw [h.authorization row hrow row' hrow' hid (hlast' hlive) (hlast' hlive')]

lemma endsApprovals_id : EndsApprovals id := ⟨fun _ => rfl, fun _ => rfl, fun _ _ h => h⟩

lemma endsAuthorizations_id : EndsAuthorizations id := ⟨fun _ => rfl, fun _ _ h => h⟩

variable (id : Uuid)

lemma endsApprovals_consume (at' : Instant) :
    EndsApprovals (DeletionLedger.consumeApproval id at') := by
  refine ⟨fun row => ?_, fun row => ?_, fun row later hlive => ?_⟩
  · unfold DeletionLedger.consumeApproval
    split <;> rfl
  · unfold DeletionLedger.consumeApproval
    split <;> rfl
  · unfold DeletionLedger.consumeApproval at hlive
    split at hlive
    · cases (recordRefusal_eq_none.mp hlive).1
    · exact hlive

lemma endsAuthorizations_consume (at' : Instant) :
    EndsAuthorizations (DeletionLedger.consumeAuthorization id at') := by
  refine ⟨fun row => ?_, fun row later hlive => ?_⟩
  · unfold DeletionLedger.consumeAuthorization
    split <;> rfl
  · unfold DeletionLedger.consumeAuthorization at hlive
    split at hlive
    · cases (recordRefusal_eq_none.mp hlive).1
    · exact hlive

variable (ids : List Uuid)

lemma endsApprovals_invalidate (at' : Instant) :
    EndsApprovals (DeletionLedger.invalidateApproval ids at') := by
  refine ⟨fun row => ?_, fun row => ?_, fun row later hlive => ?_⟩
  · unfold DeletionLedger.invalidateApproval
    split <;> rfl
  · unfold DeletionLedger.invalidateApproval
    split <;> rfl
  · unfold DeletionLedger.invalidateApproval at hlive
    split at hlive
    · cases (recordRefusal_eq_none.mp hlive).2.1
    · exact hlive

lemma endsAuthorizations_invalidate (at' : Instant) :
    EndsAuthorizations (DeletionLedger.invalidateAuthorization ids at') := by
  refine ⟨fun row => ?_, fun row later hlive => ?_⟩
  · unfold DeletionLedger.invalidateAuthorization
    split <;> rfl
  · unfold DeletionLedger.invalidateAuthorization at hlive
    split at hlive
    · cases (recordRefusal_eq_none.mp hlive).2.1
    · exact hlive

/-! ## Commits -/

lemma Sound.commitRequest (h : system.Sound) {scope : List Uuid} {row : DeletionRequest}
    (hn : system.transactions n = some ⟨.request scope, .written (.request row)⟩)
    (hfresh : ∀ other ∈ system.ledger.requests, other.id ≠ row.id) :
    (system.finish n { system.ledger with requests := row :: system.ledger.requests }).Sound := by
  have hfits := h.fits n _ hn
  have hreserves : DeletionTransaction.Reserves ⟨.request scope, .written (.request row)⟩ :=
    Or.inr ⟨_, rfl⟩
  have hscope : row.tenantIds = scope := hfits.written _ rfl
  have hclear : ∀ request ∈ system.ledger.requests, system.Alive request →
      ¬ Overlap request.tenantIds row.tenantIds := by
    rw [hscope]
    exact hfits.reserved scope rfl hreserves
  have hless : ∀ request, (system.finish n { system.ledger with
      requests := row :: system.ledger.requests }).Alive request → system.Alive request :=
    fun _ halive => halive.of_finish rfl
  refine ⟨?_, ?_, ?_, ?_, h.approvalIds, ?_, h.approval, h.authorization⟩
  · intro m transaction hmem
    rcases transactions_update hmem with ⟨-, hnew⟩ | ⟨hne, hm⟩
    · cases hnew
    · have hold := h.fits m transaction hm
      refine ⟨hold.scope_ne, fun request hsubject =>
        List.mem_cons_of_mem row (hold.subject request hsubject), hold.timed, ?_, hold.unapproved,
        hold.unauthorized, hold.written⟩
      intro scope' hoperation hreserves' request hrequest halive hoverlap
      rcases List.mem_cons.mp hrequest with rfl | hrequest
      · -- both transactions hold the tenant that the scopes share
        have hexcluded := h.not_overlap hn hm (Ne.symm hne) hreserves.remaining
          hreserves'.remaining
        rw [hoperation] at hexcluded
        refine hexcluded ?_
        rw [hscope] at hoverlap
        exact hoverlap
      · exact hold.reserved scope' hoperation hreserves' request hrequest (hless request halive)
          hoverlap
  · exact h.holds_finish n _
  · intro request hrequest
    rcases List.mem_cons.mp hrequest with rfl | hrequest
    · rw [hscope]
      exact hfits.scope_ne
    · exact h.scopes request hrequest
  · exact unique_cons h.ids fun other hother =>
      ⟨fun hid => hfresh other hother hid.symm, hfresh other hother⟩
  · intro first hfirst second hsecond hlive hlive' hoverlap
    refine unique_cons (fun first hfirst second hsecond
      (hboth : system.Alive first ∧ system.Alive second ∧
        Overlap first.tenantIds second.tenantIds) =>
      h.alone first hfirst second hsecond hboth.1 hboth.2.1 hboth.2.2) ?_ first hfirst second
      hsecond ⟨hless first hlive, hless second hlive', hoverlap⟩
    intro other hother
    refine ⟨fun hboth => ?_, fun hboth => ?_⟩
    · exact hclear other hother hboth.2.1 hboth.2.2.symm
    · exact hclear other hother hboth.1 hboth.2.2

lemma approvalOf_cons (ledger : DeletionLedger) (row : DeletionApproval) (requestId : Uuid) :
    DeletionLedger.approvalOf { ledger with approvals := row :: ledger.approvals } requestId =
      if row.requestId = requestId then some row else ledger.approvalOf requestId := by
  unfold DeletionLedger.approvalOf
  rw [List.find?_cons]
  by_cases heq : row.requestId = requestId
  · simp [heq]
  · simp [heq]

variable {requestId : Uuid} {approval : DeletionApproval}

lemma approvalOf_eq_some (h : ledger.approvalOf requestId = some approval) :
    approval ∈ ledger.approvals ∧ approval.requestId = requestId := by
  have hdecided := List.find?_some h
  exact ⟨List.mem_of_find?_eq_some h, of_decide_eq_true hdecided⟩

lemma approvalOf_eq_none (h : ledger.approvalOf requestId = none)
    (hmem : approval ∈ ledger.approvals) : approval.requestId ≠ requestId :=
  of_decide_eq_false (Bool.eq_false_of_not_eq_true (List.find?_eq_none.mp h approval hmem))

lemma Sound.subject_ne (h : system.Sound) {transaction transaction' : DeletionTransaction}
    (hn : system.transactions n = some transaction) (hm : system.transactions m = some transaction')
    (hne : m ≠ n) (hreserves : transaction.Reserves) (hreserves' : transaction'.Reserves)
    {request request' : DeletionRequest} (hscope : transaction.operation.scope = request.tenantIds)
    (hscope' : transaction'.operation.scope = request'.tenantIds)
    (hrequest : request ∈ system.ledger.requests) (hrequest' : request' ∈ system.ledger.requests) :
    request.id ≠ request'.id := by
  intro hid
  obtain rfl := h.ids request hrequest request' hrequest' hid
  have hexcluded := h.not_overlap hn hm (Ne.symm hne) hreserves.remaining hreserves'.remaining
  rw [hscope, hscope'] at hexcluded
  exact hexcluded (overlap_self (h.scopes request hrequest))

lemma Sound.commitApproval (h : system.Sound) {row : DeletionApproval}
    (hn : system.transactions n = some ⟨.approve request, .written (.approval row)⟩)
    (hfresh : ∀ other ∈ system.ledger.approvals, other.id ≠ row.id) :
    (system.finish n { system.ledger with approvals := row :: system.ledger.approvals }).Sound := by
  have hfits := h.fits n _ hn
  have hreserves : DeletionTransaction.Reserves ⟨.approve request, .written (.approval row)⟩ :=
    Or.inr ⟨_, rfl⟩
  have hrow : row.requestId = request.id := hfits.written _ rfl
  have hnone : system.ledger.approvalOf request.id = none := hfits.unapproved request rfl hreserves
  have hrequest : request ∈ system.ledger.requests := hfits.subject request rfl
  have hother : ∀ {id}, request.id ≠ id → DeletionLedger.approvalOf { system.ledger with
      approvals := row :: system.ledger.approvals } id = system.ledger.approvalOf id := by
    intro id hne
    rw [approvalOf_cons, hrow, if_neg hne]
  have hunapproved : ∀ {id approval}, system.ledger.approvalOf id = some approval →
      request.id ≠ id := by
    rintro id approval happroval rfl
    cases hnone.symm.trans happroval
  have hless : ∀ other ∈ system.ledger.requests, (system.finish n { system.ledger with
      approvals := row :: system.ledger.approvals }).Alive other → system.Alive other := by
    intro other hmem halive
    by_cases hid : request.id = other.id
    · obtain rfl := h.ids request hrequest other hmem hid
      exact Or.inl ⟨hnone, Or.inr ⟨n, _, hn, rfl, Or.inl hreserves⟩⟩
    · rcases halive with ⟨hnone', hlife⟩ | ⟨approval, happroval, hlive⟩
      · refine Or.inl ⟨(hother hid).symm.trans hnone', hlife.imp_right ?_⟩
        rintro ⟨m, transaction, hmem, hmay⟩
        rcases transactions_update hmem with ⟨-, hnew⟩ | ⟨-, hm⟩
        · cases hnew
        · exact ⟨m, transaction, hm, hmay⟩
      · exact Or.inr ⟨approval, (hother hid).symm.trans happroval, hlive⟩
  refine ⟨?_, ?_, h.scopes, h.ids, ?_, ?_, ?_, h.authorization⟩
  · intro m transaction hmem
    rcases transactions_update hmem with ⟨-, hnew⟩ | ⟨hne, hm⟩
    · cases hnew
    · have hold := h.fits m transaction hm
      refine ⟨hold.scope_ne, hold.subject, hold.timed, ?_, ?_, ?_, ?_⟩
      · intro scope hoperation hreserves' other hother' halive
        exact hold.reserved scope hoperation hreserves' other hother' (hless other hother' halive)
      · intro other hoperation hreserves'
        obtain ⟨operation, phase⟩ := transaction
        obtain rfl : operation = .approve other := hoperation
        have hne' := h.subject_ne hn hm hne hreserves hreserves' rfl rfl hrequest
          (hold.subject other rfl)
        exact (hother hne').trans (hold.unapproved other rfl hreserves')
      · intro other hoperation hreserves'
        obtain ⟨approval, happroval, hdead⟩ := hold.unauthorized other hoperation hreserves'
        exact ⟨approval, (hother (hunapproved happroval)).trans happroval, hdead⟩
      · intro write hphase
        refine writes_of_approval (hold.written write hphase) fun subject approval _ happroval => ?_
        exact ⟨approval, (hother (hunapproved happroval)).trans happroval, rfl⟩
  · exact h.holds_finish n _
  · exact unique_cons h.approvalIds fun other hother =>
      ⟨fun hid => hfresh other hother hid.symm, hfresh other hother⟩
  · intro first hfirst second hsecond hlive hlive'
    exact h.alone first hfirst second hsecond (hless first hfirst hlive)
      (hless second hsecond hlive')
  · exact unique_cons h.approval fun other hother =>
      ⟨fun hid => approvalOf_eq_none hnone hother (hid.symm.trans hrow),
        fun hid => approvalOf_eq_none hnone hother (hid.trans hrow)⟩

lemma Sound.commitAuthorization (h : system.Sound) {row : ExecutionAuthorization}
    (hn : system.transactions n = some ⟨.authorize request, .written (.authorization row)⟩) :
    (system.finish n { system.ledger with
      authorizations := row :: system.ledger.authorizations }).Sound := by
  have hfits := h.fits n _ hn
  have hreserves :
      DeletionTransaction.Reserves ⟨.authorize request, .written (.authorization row)⟩ :=
    Or.inr ⟨_, rfl⟩
  have hrequest : request ∈ system.ledger.requests := hfits.subject request rfl
  obtain ⟨approval, happroval, hdead⟩ := hfits.unauthorized request rfl hreserves
  obtain ⟨approval', happroval', hrow⟩ :
      ∃ approval, system.ledger.approvalOf request.id = some approval ∧
        row.approvalId = approval.id := hfits.written _ rfl
  obtain rfl := Option.some.inj (happroval.symm.trans happroval')
  obtain ⟨hmem, hof⟩ := approvalOf_eq_some happroval
  have hless : ∀ other, (system.finish n { system.ledger with
      authorizations := row :: system.ledger.authorizations }).Alive other → system.Alive other :=
    fun _ halive => halive.of_finish rfl
  refine ⟨?_, ?_, h.scopes, h.ids, h.approvalIds, ?_, h.approval, ?_⟩
  · intro m transaction hmem'
    rcases transactions_update hmem' with ⟨-, hnew⟩ | ⟨hne, hm⟩
    · cases hnew
    · have hold := h.fits m transaction hm
      refine ⟨hold.scope_ne, hold.subject, hold.timed, ?_, hold.unapproved, ?_, hold.written⟩
      · intro scope hoperation hreserves' other hother halive
        exact hold.reserved scope hoperation hreserves' other hother (hless other halive)
      · intro other hoperation hreserves'
        obtain ⟨found, hfound, hdead'⟩ := hold.unauthorized other hoperation hreserves'
        refine ⟨found, hfound, fun authorization hauthorization hid => ?_⟩
        rcases List.mem_cons.mp hauthorization with rfl | hauthorization
        · -- the same approval belongs to the same request, whose tenants are locked
          obtain ⟨hfoundMem, hfoundOf⟩ := approvalOf_eq_some hfound
          obtain rfl := h.approvalIds approval hmem found hfoundMem (hrow.symm.trans hid)
          obtain ⟨operation, phase⟩ := transaction
          obtain rfl : operation = .authorize other := hoperation
          exact absurd (hof.symm.trans hfoundOf) (h.subject_ne hn hm hne hreserves hreserves' rfl
            rfl hrequest (hold.subject other rfl))
        · exact hdead' authorization hauthorization hid
  · exact h.holds_finish n _
  · intro first hfirst second hsecond hlive hlive'
    exact h.alone first hfirst second hsecond (hless first hlive) (hless second hlive')
  · intro first hfirst second hsecond hid hlive hlive'
    refine unique_cons (fun first hfirst second hsecond
      (hboth : first.approvalId = second.approvalId ∧
        authorizationRefusal first system.clock = none ∧
        authorizationRefusal second system.clock = none) =>
      h.authorization first hfirst second hsecond hboth.1 hboth.2.1 hboth.2.2) ?_ first hfirst second
      hsecond ⟨hid, hlive, hlive'⟩
    intro other hother
    refine ⟨fun hboth => ?_, fun hboth => ?_⟩
    · exact hdead other hother (hboth.1.symm.trans hrow) hboth.2.2
    · exact hdead other hother (hboth.1.trans hrow) hboth.2.1

lemma Sound.commit {system : DeletionSystem} (h : system.Sound) {n : ℕ}
    {operation : DeletionOperation} {write : DeletionWrite}
    (hn : system.transactions n = some ⟨operation, .written write⟩) :
    (system.finish n (system.ledger.commit write)).Sound := by
  have hwrites := (h.fits n _ hn).written write rfl
  cases write with
  | request row =>
    dsimp only [DeletionLedger.commit]
    split
    · exact h.abort n
    · next hfresh =>
      cases operation with
      | request scope =>
        exact h.commitRequest hn fun other hother hid => hfresh ⟨other, hother, hid⟩
      | approve subject => exact absurd hwrites id
      | authorize subject => exact absurd hwrites id
      | execute subject approvalId authorizationId => exact absurd hwrites id
  | approval row =>
    dsimp only [DeletionLedger.commit]
    split
    · exact h.abort n
    · next hfresh =>
      cases operation with
      | request scope => exact absurd hwrites id
      | approve subject =>
        exact h.commitApproval hn fun other hother hid => hfresh ⟨other, hother, hid⟩
      | authorize subject => exact absurd hwrites id
      | execute subject approvalId authorizationId => exact absurd hwrites id
  | authorization row =>
    dsimp only [DeletionLedger.commit]
    split
    · exact h.abort n
    · cases operation with
      | request scope => exact absurd hwrites id
      | approve subject => exact absurd hwrites id
      | authorize subject => exact h.commitAuthorization hn
      | execute subject approvalId authorizationId => exact absurd hwrites id
  | consumed approvalId authorizationId at' =>
    refine h.less le_rfl (endsApprovals_consume approvalId at')
      (endsAuthorizations_consume authorizationId at') ?_
    intro m transaction hmem
    rcases transactions_update hmem with ⟨-, hnew⟩ | ⟨hne, hm⟩
    · cases hnew
    · exact ⟨hm, fun tenantId hheld => hheld.of_release hne⟩

/-! ## The other steps -/

lemma canonicalScope_ne {tenantIds scope : List Uuid} (h : canonicalScope tenantIds = some scope) :
    scope ≠ [] := by
  unfold canonicalScope at h
  dsimp only at h
  split at h
  · next hbounds =>
    obtain rfl := Option.some.inj h
    exact List.ne_nil_of_length_pos hbounds.1
  · cases h

lemma Sound.begin_spec (h : system.Sound) {call : DeletionCall}
    (hbegin : system.ledger.begin call = some operation) :
    operation.scope ≠ [] ∧ ∀ request ∈ operation.subject, request ∈ system.ledger.requests := by
  have hfound : ∀ {id : Uuid} {row : DeletionRequest},
      (system.ledger.requests.find? fun row => decide (row.id = id)) = some row →
      row.tenantIds ≠ [] ∧ ∀ request ∈ some row, request ∈ system.ledger.requests := by
    intro id row hrow
    have hmem := List.mem_of_find?_eq_some hrow
    refine ⟨h.scopes row hmem, fun request hrequest => ?_⟩
    obtain rfl := Option.some.inj hrequest
    exact hmem
  cases call with
  | request tenantIds =>
    obtain ⟨scope, hscope, rfl⟩ := Option.map_eq_some_iff.mp hbegin
    exact ⟨canonicalScope_ne hscope, fun request hrequest => by cases hrequest⟩
  | approve requestId =>
    obtain ⟨row, hrow, rfl⟩ := Option.map_eq_some_iff.mp hbegin
    exact hfound hrow
  | authorize requestId =>
    dsimp only [DeletionLedger.begin] at hbegin
    split at hbegin
    · cases hbegin
    · obtain ⟨row, hrow, rfl⟩ := Option.map_eq_some_iff.mp hbegin
      exact hfound hrow
  | execute authorizationId =>
    obtain ⟨authorization, -, hbegin⟩ := Option.bind_eq_some_iff.mp hbegin
    obtain ⟨approval, -, hbegin⟩ := Option.bind_eq_some_iff.mp hbegin
    obtain ⟨row, hrow, hbegin⟩ := Option.bind_eq_some_iff.mp hbegin
    obtain rfl := Option.some.inj hbegin
    exact hfound hrow

lemma Sound.setTransaction {system : DeletionSystem} (h : system.Sound) {n : ℕ}
    {operation : DeletionOperation} {old phase : DeletionPhase}
    (hn : system.transactions n = some ⟨operation, old⟩) (hlocked : old.remaining = [])
    (hfits : system.Fits ⟨operation, phase⟩)
    (halive : ∀ request, DeletionTransaction.MayApprove ⟨operation, phase⟩ request →
      system.ledger.approvalOf request.id = none → system.Alive request) :
    (system.setTransaction n operation phase).Sound := by
  refine h.replace (fun _ _ _ hheld => hheld) ?_ ?_ ?_
  · rintro transaction hnew
    obtain rfl := Option.some.inj hnew
    exact hfits
  · rintro transaction hnew tenantId htenant
    obtain rfl := Option.some.inj hnew
    have hheld := h.holds n _ hn tenantId htenant
    rw [hlocked] at hheld
    exact Or.inr (hheld.resolve_left List.not_mem_nil)
  · rintro transaction hnew
    obtain rfl := Option.some.inj hnew
    exact halive

lemma fits_of_not_reserves (hscope : transaction.operation.scope ≠ [])
    (hsubject : ∀ request ∈ transaction.operation.subject, request ∈ system.ledger.requests)
    (htimed : ∀ at', transaction.phase = .timed at' → at' ≤ system.clock)
    (hnot : ¬ transaction.Reserves) : system.Fits transaction where
  scope_ne := hscope
  subject := hsubject
  timed := htimed
  reserved _ _ hreserves := absurd hreserves hnot
  unapproved _ _ hreserves := absurd hreserves hnot
  unauthorized _ _ hreserves := absurd hreserves hnot
  written write hphase := absurd (Or.inr ⟨write, hphase⟩) hnot

lemma Sound.check (h : system.Sound) {at' : Instant}
    (hn : system.transactions n = some ⟨operation, .timed at'⟩)
    (haccepts : system.ledger.Accepts at' operation) :
    (system.setTransaction n operation .checked).Sound := by
  have hold := h.fits n _ hn
  have hle : at' ≤ system.clock := hold.timed at' rfl
  refine h.setTransaction hn rfl ⟨hold.scope_ne, hold.subject, ?_, ?_, ?_, ?_, ?_⟩ ?_
  · exact fun at'' hphase => by cases hphase
  · rintro scope hoperation - request hrequest halive hoverlap
    obtain rfl : operation = .request scope := hoperation
    have hlive : (system.ledger.state request at').IsLive := by
      refine isLive_state.mpr ?_
      rcases halive with ⟨hnone, hlt | ⟨m, transaction, hm, hmay⟩⟩ | ⟨approval, hsome, hlive⟩
      · exact Or.inl ⟨hnone, lt_of_le_of_lt hle hlt⟩
      · -- the approval under way holds the tenant that the scopes share
        have hne : m ≠ n := by
          rintro rfl
          obtain rfl := Option.some.inj (hn.symm.trans hm)
          cases hmay.1
        have hexcluded := h.not_overlap hm hn hne hmay.remaining rfl
        rw [hmay.1] at hexcluded
        exact absurd hoverlap hexcluded
      · exact Or.inr ⟨approval, hsome, recordRefusal_of_le hle hlive⟩
    have hmem : request ∈ system.ledger.liveRequests scope at' :=
      List.mem_filter.mpr ⟨hrequest, decide_eq_true ⟨hoverlap, hlive⟩⟩
    rw [show system.ledger.liveRequests scope at' = [] from haccepts] at hmem
    cases hmem
  · rintro request hoperation -
    obtain rfl : operation = .approve request := hoperation
    exact haccepts.1
  · rintro request hoperation -
    obtain rfl : operation = .authorize request := hoperation
    obtain ⟨approval, happroval, -, hnone⟩ := haccepts
    refine ⟨approval, happroval, fun authorization hauthorization hid hlive => ?_⟩
    have hmem : authorization ∈ system.ledger.liveAuthorizations approval.id at' :=
      List.mem_filter.mpr ⟨hauthorization,
        decide_eq_true ⟨hid, recordRefusal_of_le hle hlive⟩⟩
    rw [hnone] at hmem
    cases hmem
  · exact fun write hphase => by cases hphase
  · rintro request ⟨hoperation, -⟩ hnone
    obtain rfl : operation = .approve request := hoperation
    exact Or.inl ⟨hnone, Or.inr ⟨n, _, hn, rfl, Or.inr ⟨at', rfl, haccepts.2⟩⟩⟩

lemma writes_of_insert {id : Uuid} {clock : Instant}
    (h : ledger.insert id clock operation = some write) : operation.Writes ledger write := by
  cases operation with
  | request scope =>
    obtain rfl := Option.some.inj h
    rfl
  | approve subject =>
    dsimp only [DeletionLedger.insert] at h
    split at h
    · obtain rfl := Option.some.inj h
      rfl
    · cases h
  | authorize subject =>
    dsimp only [DeletionLedger.insert] at h
    split at h
    · next approval happroval =>
      split at h
      · obtain rfl := Option.some.inj h
        exact ⟨approval, happroval, rfl⟩
      · cases h
    · cases h
  | execute subject approvalId authorizationId =>
    dsimp only [DeletionLedger.insert] at h
    split at h
    · obtain rfl := Option.some.inj h
      trivial
    · cases h

lemma Sound.insert (h : system.Sound) {id : Uuid}
    (hn : system.transactions n = some ⟨operation, .checked⟩)
    (hinsert : system.ledger.insert id system.clock operation = some write) :
    (system.setTransaction n operation (.written write)).Sound := by
  have hold := h.fits n _ hn
  have hreserves : DeletionTransaction.Reserves ⟨operation, .checked⟩ := Or.inl rfl
  refine h.setTransaction hn rfl ⟨hold.scope_ne, hold.subject, ?_, ?_, ?_, ?_, ?_⟩ ?_
  · exact fun at' hphase => by cases hphase
  · exact fun scope hoperation _ => hold.reserved scope hoperation hreserves
  · exact fun request hoperation _ => hold.unapproved request hoperation hreserves
  · exact fun request hoperation _ => hold.unauthorized request hoperation hreserves
  · intro write' hphase
    obtain rfl := DeletionPhase.written.inj hphase
    exact writes_of_insert hinsert
  · rintro request ⟨hoperation, -⟩ hnone
    exact Or.inl ⟨hnone, Or.inr ⟨n, _, hn, hoperation, Or.inl hreserves⟩⟩

lemma Sound.step {system : DeletionSystem} (h : system.Sound) (event : DeletionEvent) :
    (system.step event).Sound := by
  cases event with
  | tick elapsed =>
    have hless := @Sound.less system h (system.clock + elapsed) _ _ system.locks
      system.transactions (Int.le_add_of_nonneg_right (Int.natCast_nonneg elapsed))
      endsApprovals_id endsAuthorizations_id (fun _ _ hmem => ⟨hmem, fun _ hheld => hheld⟩)
    unfold DeletionLedger.settle at hless
    rw [List.map_id, List.map_id] at hless
    exact hless
  | begin n call =>
    dsimp only [DeletionSystem.step]
    split
    · next operation hnone hbegin =>
      obtain ⟨hscope, hsubject⟩ := h.begin_spec hbegin
      have hnot : ¬ DeletionTransaction.Reserves ⟨operation, .locking operation.scope⟩ := by
        rintro (hphase | ⟨write, hphase⟩) <;> cases hphase
      refine h.replace (fun _ _ _ hheld => hheld) ?_ ?_ ?_
      · rintro transaction hnew
        obtain rfl := Option.some.inj hnew
        exact fits_of_not_reserves hscope hsubject (fun at' hphase => by cases hphase) hnot
      · rintro transaction hnew tenantId htenant
        obtain rfl := Option.some.inj hnew
        exact Or.inl htenant
      · rintro transaction hnew request ⟨-, hmay⟩
        obtain rfl := Option.some.inj hnew
        rcases hmay with hreserves | ⟨at', hphase, -⟩
        · exact absurd hreserves hnot
        · cases hphase
    · exact h
  | lock n =>
    dsimp only [DeletionSystem.step, DeletionSystem.lock]
    split
    · next operation tenantId remaining hn =>
      split
      · next locks hlocks =>
        have hold := h.fits n _ hn
        have hnot : ¬ DeletionTransaction.Reserves ⟨operation, .locking remaining⟩ := by
          rintro (hphase | ⟨write, hphase⟩) <;> cases hphase
        refine h.replace (fun _ _ _ hheld => hheld.of_acquire hlocks) ?_ ?_ ?_
        · rintro transaction hnew
          obtain rfl := Option.some.inj hnew
          exact fits_of_not_reserves hold.scope_ne hold.subject
            (fun at' hphase => by cases hphase) hnot
        · rintro transaction hnew other hother
          obtain rfl := Option.some.inj hnew
          rcases h.holds n _ hn other hother with hmem | hheld
          · rcases List.mem_cons.mp hmem with rfl | hmem
            · exact Or.inr (LockTable.holdsExclusively_of_acquire hlocks List.mem_cons_self)
            · exact Or.inl hmem
          · exact Or.inr (hheld.of_acquire hlocks)
        · rintro transaction hnew request ⟨-, hmay⟩
          obtain rfl := Option.some.inj hnew
          rcases hmay with hreserves | ⟨at', hphase, -⟩
          · exact absurd hreserves hnot
          · cases hphase
      · exact h
    · exact h
  | readClock n =>
    dsimp only [DeletionSystem.step, DeletionSystem.readClock]
    split
    · next operation hn =>
      have hold := h.fits n _ hn
      have hnot : ¬ DeletionTransaction.Reserves ⟨operation, .timed system.clock⟩ := by
        rintro (hphase | ⟨write, hphase⟩) <;> cases hphase
      refine h.setTransaction hn rfl ?_ ?_
      · refine fits_of_not_reserves hold.scope_ne hold.subject (fun at' hphase => ?_) hnot
        obtain rfl := DeletionPhase.timed.inj hphase
        exact le_rfl
      · rintro request ⟨-, hmay⟩ hnone
        rcases hmay with hreserves | ⟨at', hphase, hlt⟩
        · exact absurd hreserves hnot
        · obtain rfl := DeletionPhase.timed.inj hphase
          exact Or.inl ⟨hnone, Or.inl hlt⟩
    · exact h
  | check n granted =>
    dsimp only [DeletionSystem.step, DeletionSystem.check]
    split
    · next operation at' hn =>
      split
      · next hguard => exact h.check hn hguard.2
      · exact h.abort n
    · exact h
  | insert n id =>
    dsimp only [DeletionSystem.step, DeletionSystem.insert]
    split
    · next operation hn =>
      split
      · next write hinsert => exact h.insert hn hinsert
      · exact h.abort n
    · exact h
  | commit n =>
    dsimp only [DeletionSystem.step]
    split
    · next operation write hn => exact h.commit hn
    · exact h
  | abort n => exact h.abort n
  | revoke approvalIds authorizationIds =>
    exact h.less le_rfl (endsApprovals_invalidate approvalIds system.clock)
      (endsAuthorizations_invalidate authorizationIds system.clock)
      (fun _ _ hmem => ⟨hmem, fun _ hheld => hheld⟩)

end DeletionSystem

/-! ## Runs -/

/-- **No two live deletion requests**: at every instant of every run at most one live request names
a tenant, a request has at most one approval, and an approval at most one live authorisation. -/
theorem atMostOneLive (clock : Instant) (events : List DeletionEvent) :
    Run.Always DeletionSystem.step DeletionSystem.OneLive (DeletionSystem.start clock) events := by
  rintro before after -
  have hsound : (Run.run DeletionSystem.step (DeletionSystem.start clock) before).Sound :=
    Run.run_of_step (fun _ event hsound => hsound.step event) (DeletionSystem.sound_start clock)
      before
  exact hsound.oneLive

end SaasOs.PermissionGrants
