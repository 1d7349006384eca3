import ProxyTestbed.Proofs.Probe.WebSocket

/-!
# Who closes the connection of a probe

A close and the end of a block ask the connection to close, but only on an open probe. A close frame of the peer
closes the probe as well, without asking the connection for anything. So a close that comes after it does nothing,
and the connection of such a probe is never asked to close.

* `closings_after_of_exchanges`: sending and receiving leave the connection alone.
* `closed_after_exchanges_iff`: they close the probe only through a close frame of the peer.
* `closings_after_shut_iff`: the connection is closed exactly once, unless the peer was first.
-/

namespace ProxyTestbed.WebSocketProbe

variable {σ τ : Type} [Seconds τ] [Host σ τ] {s : World σ τ × WebSocketProbe τ}

/-- The operation takes a close frame of the peer from an open connection. -/
def Operation.TakesClose (op : Operation τ) (s : World σ τ × WebSocketProbe τ) : Prop :=
  (op = .receive ∨ op = .receiveText) ∧ s.2.closed = false ∧
    ∃ frame, (Host.answer (.receiveFrame s.2.connection.key) s.1.host).1 = .ok frame ∧ frame.opcode = closeFrame

/-- One of the operations takes a close frame of the peer. -/
def PeerCloses (ops : List (Operation τ)) (s : World σ τ × WebSocketProbe τ) : Prop :=
  ∃ done op, done ++ [op] <+: ops ∧ op.TakesClose (Operation.after done s)

omit [Seconds τ] [Host σ τ] in
theorem Operation.closes_received_iff {a : Except (Fault τ) Frame} :
    closes.received a = true ↔ ∃ frame, a = .ok frame ∧ frame.opcode = closeFrame := by
  cases a with
  | ok frame => simp [closes.received]
  | error fault => simp [closes.received]

omit [Seconds τ] in
/-- Sending and receiving close a probe only through a close frame of the peer. -/
theorem Operation.closes_iff_takesClose {op : Operation τ} (hop : op.shuts = false) :
    op.Closes s ↔ op.TakesClose s := by
  cases op with
  | sendText message => simp [Closes, closes, TakesClose]
  | sendBinary payload => simp [Closes, closes, TakesClose]
  | receive => exact (and_congr_right fun _ => closes_received_iff).trans (and_iff_right (.inl rfl)).symm
  | receiveText => exact (and_congr_right fun _ => closes_received_iff).trans (and_iff_right (.inr rfl)).symm
  | close status reason => cases hop
  | leave ending => cases hop

section

variable {exchanges : List (Operation τ)} (hexchanges : ∀ op ∈ exchanges, op.shuts = false)

include hexchanges

theorem closed_after_exchanges_iff (h : s.2.closed = false) :
    (Operation.after exchanges s).2.closed = true ↔ PeerCloses exchanges s := by
  rw [Operation.closed_after_iff, h]
  simp only [Bool.false_eq_true, false_or, PeerCloses]
  refine exists₂_congr fun done op => and_congr_right fun hdone => ?_
  exact Operation.closes_iff_takesClose (hexchanges op (hdone.subset (by simp)))

theorem closings_after_of_exchanges :
    closings s.2.connection.key (Operation.after exchanges s) = closings s.2.connection.key s := by
  induction exchanges using List.reverseRecOn with
  | nil => rfl
  | append_singleton exchanges op ih =>
    have hbefore := ih fun op' hop' => hexchanges op' (by simp [hop'])
    have hconnection := (Operation.closings_after exchanges s).1
    have hstep := (op.makes_next (Operation.after exchanges s)).closings
    rw [hexchanges op (by simp), hconnection, hbefore, Bool.and_false] at hstep
    rw [Operation.after_concat, hstep]
    rfl

end

/-- **Closing a probe shuts the connection, unless the peer was first.** After an open probe has sent and received, in
any order and with any outcome, and a close or the end of a block, and then any operations, the probe is closed. Its
connection has been asked to close exactly once, unless a close frame of the peer was received before: then it has not
been asked to close at all. -/
theorem closings_after_shut_iff (h : s.2.closed = false) {exchanges : List (Operation τ)}
    (hexchanges : ∀ op ∈ exchanges, op.shuts = false) {shut : Operation τ} (hshut : shut.shuts = true)
    (more : List (Operation τ)) :
    (Operation.after (exchanges ++ shut :: more) s).2.closed = true ∧
    (closings s.2.connection.key (Operation.after (exchanges ++ shut :: more) s) =
      closings s.2.connection.key s + 1 ↔ ¬ PeerCloses exchanges s) ∧
    (PeerCloses exchanges s →
      closings s.2.connection.key (Operation.after (exchanges ++ shut :: more) s) =
        closings s.2.connection.key s) := by
  have hmakes := shut.makes_next (Operation.after exchanges s)
  have hclosed : (shut.next (Operation.after exchanges s)).2.closed = true := by
    refine hmakes.closed.mpr ?_
    cases hopen : (Operation.after exchanges s).2.closed with
    | true => exact .inl rfl
    | false => exact .inr (Operation.closes_of_shuts hshut hopen)
  -- From the close on nothing changes any more, so that only the step of the close counts.
  have hsplit : Operation.after (exchanges ++ shut :: more) s = shut.next (Operation.after exchanges s) := by
    calc Operation.after (exchanges ++ shut :: more) s
        = Operation.after more (shut.next (Operation.after exchanges s)) := List.foldl_append
      _ = shut.next (Operation.after exchanges s) := Operation.after_of_closed more hclosed
  have hcount := hmakes.closings
  rw [(Operation.closings_after exchanges s).1, closings_after_of_exchanges hexchanges, hshut, Bool.and_true] at hcount
  have hpeer := closed_after_exchanges_iff hexchanges h
  rw [hsplit, hcount]
  refine ⟨hclosed, ?_, fun hfirst => ?_⟩
  · rw [← hpeer]
    cases (Operation.after exchanges s).2.closed <;> simp
  · rw [hpeer.mpr hfirst]
    rfl

/-- A probe whose peer leaves. -/
def beforeLeaving : World (Constant leaving) Rat × WebSocketProbe Rat :=
  (Constant.begin, dialled)

/-- Once the close frame of the peer is received, a close asks the connection for nothing. Without it the end of a
block closes the connection. -/
theorem closings_after_shut_iff_leaving :
    (PeerCloses [.receive] beforeLeaving ∧
      closings 0 (Operation.after [.receive, .close normalStatus ""] beforeLeaving) = 0) ∧
    ¬ PeerCloses [.sendText "hello"] beforeLeaving ∧
      closings 0 (Operation.after [.sendText "hello", .leave (.ok ())] beforeLeaving) = 1 := by
  have hreceive : ∀ op ∈ [(.receive : Operation Rat)], op.shuts = false := by simp [Operation.shuts]
  have hsend : ∀ op ∈ [(.sendText "hello" : Operation Rat)], op.shuts = false := by simp [Operation.shuts]
  have hclose : (.close normalStatus "" : Operation Rat).shuts = true := rfl
  have hleave : (.leave (.ok ()) : Operation Rat).shuts = true := rfl
  have hpeer : PeerCloses [.receive] beforeLeaving :=
    ⟨[], .receive, List.prefix_rfl, .inl rfl, rfl, ⟨closeFrame, .bytes []⟩, rfl, rfl⟩
  have halone : ¬ PeerCloses [.sendText "hello"] beforeLeaving := by
    rw [← closed_after_exchanges_iff hsend rfl]
    exact Bool.false_ne_true
  obtain ⟨-, -, hnone⟩ := closings_after_shut_iff (s := beforeLeaving) rfl hreceive hclose []
  obtain ⟨-, hone, -⟩ := closings_after_shut_iff (s := beforeLeaving) rfl hsend hleave []
  exact ⟨⟨hpeer, hnone hpeer⟩, halone, hone.mpr halone⟩

end ProxyTestbed.WebSocketProbe
