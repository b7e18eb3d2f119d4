import Mathlib.Algebra.BigOperators.Group.List.Basic
import ZeroShim.Library.Transition
import ZeroShim.Proxy.Handle

/-!
# What the listener holds

{lit}`serve_with_shutdown` with its connections and the streams multiplexed on them.  A
permit is taken for each connection; a body is buffered for each stream.

Main results:

- Theorem {lit}`BodyRead.collect_eq_ok_iff`: a body read frame by frame is the body
  collected.
- Theorem {lit}`connections_of_runs`: the permits bound the connections.
- Theorem {lit}`held_bounded`: the bytes held stay within the documented bound where the
  body reads do, and can leave it as soon as they do not.
-/

namespace ZeroShim

open Library

/-- How many wallet connections may be in flight at once. -/
def maxInflightConnections : Nat := 256

/-- Ceiling on reading a request body off the wire, in milliseconds. -/
def bodyReadTimeout : Nat := 30000

/-! ## Reading one body -/

/-- A body read in progress: what {lit}`Limited` still lets through, and what is
collected. -/
structure BodyRead where
  remaining : Nat
  collected : Collected
  limited : collected.data.length + remaining = maxSendTxBytes

namespace BodyRead

def start : BodyRead := ⟨maxSendTxBytes, ⟨[], none⟩, Nat.zero_add _⟩

/-- Take the next frame, if it is within the limit. -/
def push (read : BodyRead) (frame : Frame) : Option BodyRead :=
  if h : frame.dataBytes.length ≤ read.remaining then
    some ⟨read.remaining - frame.dataBytes.length, read.collected.pushFrame frame, by
      have := read.limited
      rw [Collected.pushFrame_data, List.length_append]
      omega⟩
  else none

/-- Take frames one after the other. -/
def feed (read : BodyRead) : List Frame → Option BodyRead
  | [] => some read
  | frame :: frames => (read.push frame).bind fun read => read.feed frames

/-- The bytes held. -/
def held (read : BodyRead) : Nat := read.collected.data.length

theorem held_le (read : BodyRead) : read.held ≤ maxSendTxBytes := by
  have := read.limited
  unfold held
  omega

theorem collectFrames_eq_ok_iff (read : BodyRead) {frames : List Frame} {ending : BodyEnd}
    {collected : Collected} :
    collectFrames read.remaining read.collected ending frames = .ok collected ↔
      ending = .complete ∧ ∃ read', read.feed frames = some read' ∧
        read'.collected = collected := by
  induction frames generalizing read with
  | nil => cases ending <;> simp [collectFrames, feed]
  | cons frame frames ih =>
    unfold collectFrames feed push
    by_cases hfits : frame.dataBytes.length ≤ read.remaining
    · rw [if_neg (by omega), dif_pos hfits, Option.bind_some, ← ih]
    · rw [if_pos (by omega), dif_neg hfits]
      simp

/-- A body read frame by frame is the body collected. -/
theorem collect_eq_ok_iff {body : Body} {collected : Collected} :
    body.collect maxSendTxBytes = .ok collected ↔
      body.ending = .complete ∧ ∃ read, start.feed body.frames = some read ∧
        read.collected = collected :=
  collectFrames_eq_ok_iff start

/-- A frame with all that may still come. -/
def lastFrame (read : BodyRead) : Frame := .data (zeros read.remaining)

theorem push_lastFrame (read : BodyRead) :
    ∃ full, read.push read.lastFrame = some full ∧ full.held = maxSendTxBytes := by
  have hlen : read.lastFrame.dataBytes.length = read.remaining := length_zeros _
  have hfits : read.lastFrame.dataBytes.length ≤ read.remaining := Nat.le_of_eq hlen
  unfold push
  rw [dif_pos hfits]
  refine ⟨_, rfl, ?_⟩
  have := read.limited
  unfold held
  rw [Collected.pushFrame_data, List.length_append, hlen]
  exact this

end BodyRead

/-! ## State -/

/-- What the task of a stream does. -/
inductive Work where
  | reading (read : BodyRead) (deadline : Nat)
  /-- Anything but the read of a submission's body. -/
  | handling

structure Stream where
  connection : Nat
  work : Work

/-- A connection task, which holds one permit. -/
structure Connection where
  id : Nat
  handshaking : Bool

structure Listener where
  now : Nat
  accepting : Bool
  permits : Nat
  accepted : Nat
  connections : List Connection
  /-- The streams of connections that are gone end by themselves. -/
  streams : List Stream

def Stream.isReading (stream : Stream) : Bool :=
  match stream.work with
  | .reading _ _ => true
  | .handling => false

def Stream.held (stream : Stream) : Nat :=
  match stream.work with
  | .reading read _ => read.held
  | .handling => 0

namespace Listener

def initial : Listener := ⟨0, true, maxInflightConnections, 0, [], []⟩

/-- The body reads in progress. -/
def reads (s : Listener) : Nat := s.streams.countP Stream.isReading

/-- The bytes they hold. -/
def held (s : Listener) : Nat := (s.streams.map Stream.held).sum

/-- The streams open on a connection. -/
def streamsOn (s : Listener) (id : Nat) : Nat :=
  s.streams.countP fun stream => stream.connection = id

/-! ## Steps -/

inductive Event where
  | tick (d : Nat)
  | shutdown
  /-- An error of {lit}`accept`; a transient one, or descriptor exhaustion, is survived. -/
  | acceptFailed (survived : Bool)
  | accept
  /-- A TLS handshake ends; the acceptor keeps validations to itself. -/
  | handshook (id : Nat) (serves : Bool)
  | disconnected (id : Nat)
  /-- The head of a request on a new stream. -/
  | request (id : Nat) (path : String)
  | frame (j : Nat) (frame : Frame)
  | bodyEnded (j : Nat)
  | bodyFailed (j : Nat)
  | bodyTimedOut (j : Nat)
  /-- The stream was answered, or reset. -/
  | left (j : Nat)

inductive Observed where
  | served (id : Nat)
  | refused
  | returned
deriving DecidableEq, Repr

/-- The paths whose bodies are buffered for the classifier. -/
def isClassified (path : String) : Bool :=
  routeFor path = .intercept || routeFor path = .interceptNearMiss

/-- The end of a connection task: its permit is given back. -/
def release (s : Listener) (id : Nat) : Listener :=
  { s with
    permits := s.permits + 1
    connections := s.connections.eraseP fun connection => connection.id = id }

/-- A stream's task goes on. -/
def put (s : Listener) (j : Nat) (stream : Stream) : Listener :=
  { s with streams := s.streams.set j stream }

/-- One step. -/
def step (tls : Bool) (maxConcurrentStreams : Nat) (s : Listener) :
    Event → Option (Listener × List Observed)
  | .tick d => some ({ s with now := s.now + d }, [])
  | .shutdown => some ({ s with accepting := false }, [.returned])
  | .acceptFailed survived =>
    if survived then some (s, []) else some ({ s with accepting := false }, [.returned])
  | .accept =>
    if s.accepting then
      if 0 < s.permits then
        some ({ s with
                permits := s.permits - 1
                accepted := s.accepted + 1
                connections := s.connections ++ [⟨s.accepted, tls⟩] }, [.served s.accepted])
      else some (s, [.refused])
    else none
  | .handshook id serves =>
    if s.connections.any fun connection => connection.id = id && connection.handshaking then
      if serves then
        some ({ s with
                connections := s.connections.map fun connection =>
                  if connection.id = id then { connection with handshaking := false }
                  else connection }, [])
      else some (s.release id, [])
    else none
  | .disconnected id =>
    if s.connections.any fun connection => connection.id = id && !connection.handshaking then
      some (s.release id, [])
    else none
  | .request id path =>
    if (s.connections.any fun connection => connection.id = id && !connection.handshaking) ∧
        s.streamsOn id < maxConcurrentStreams then
      some ({ s with
              streams := s.streams ++
                [⟨id, if isClassified path then .reading .start (s.now + bodyReadTimeout)
                  else .handling⟩] }, [])
    else none
  | .frame j frame =>
    match s.streams[j]? with
    | some ⟨id, .reading read deadline⟩ =>
      match read.push frame with
      | some read => some (s.put j ⟨id, .reading read deadline⟩, [])
      | none => some (s.put j ⟨id, .handling⟩, [])
    | _ => none
  | .bodyEnded j =>
    match s.streams[j]? with
    | some ⟨id, .reading _ _⟩ => some (s.put j ⟨id, .handling⟩, [])
    | _ => none
  | .bodyFailed j =>
    match s.streams[j]? with
    | some ⟨id, .reading _ _⟩ => some (s.put j ⟨id, .handling⟩, [])
    | _ => none
  | .bodyTimedOut j =>
    match s.streams[j]? with
    | some ⟨id, .reading _ deadline⟩ =>
      if deadline ≤ s.now then some (s.put j ⟨id, .handling⟩, []) else none
    | _ => none
  | .left j => some ({ s with streams := s.streams.eraseIdx j }, [])

/-! ## What a step can do -/

section Step

variable (tls : Bool) (maxConcurrentStreams : Nat)

/-- The effects of a step. -/
inductive Stepped (s : Listener) : Event → Listener → Prop where
  | tick (d) : Stepped s (.tick d) { s with now := s.now + d }
  | shutdown : Stepped s .shutdown { s with accepting := false }
  | survive : Stepped s (.acceptFailed true) s
  | acceptFailed : Stepped s (.acceptFailed false) { s with accepting := false }
  | accept : s.accepting = true → 0 < s.permits →
      Stepped s .accept
        { s with
          permits := s.permits - 1
          accepted := s.accepted + 1
          connections := s.connections ++ [⟨s.accepted, tls⟩] }
  | refuse : s.accepting = true → s.permits = 0 → Stepped s .accept s
  | handshook {id} :
      (s.connections.any fun connection =>
        connection.id = id && connection.handshaking) = true →
      Stepped s (.handshook id true)
        { s with
          connections := s.connections.map fun connection =>
            if connection.id = id then { connection with handshaking := false }
            else connection }
  /-- A connection is gone, in its handshake or after. -/
  | release {e id} (state : Connection → Bool) :
      (s.connections.any fun connection => connection.id = id && state connection) = true →
      Stepped s e (s.release id)
  | request {id path} :
      (s.connections.any fun connection =>
        connection.id = id && !connection.handshaking) = true →
      s.streamsOn id < maxConcurrentStreams →
      Stepped s (.request id path)
        { s with
          streams := s.streams ++
            [⟨id, if isClassified path then .reading .start (s.now + bodyReadTimeout)
              else .handling⟩] }
  | read {j frame id read read' deadline} : s.streams[j]? = some ⟨id, .reading read deadline⟩ →
      read.push frame = some read' →
      Stepped s (.frame j frame) (s.put j ⟨id, .reading read' deadline⟩)
  /-- A body ended, failed, took too long or was too long. -/
  | endRead {e j id read deadline} : s.streams[j]? = some ⟨id, .reading read deadline⟩ →
      Stepped s e (s.put j ⟨id, .handling⟩)
  | left (j) : Stepped s (.left j) { s with streams := s.streams.eraseIdx j }

variable {tls maxConcurrentStreams}

theorem stepped_of_step {s s' : Listener} {e : Event} {o : List Observed}
    (h : step tls maxConcurrentStreams s e = some (s', o)) :
    Stepped tls maxConcurrentStreams s e s' := by
  cases e with
  | tick d =>
    cases h
    exact .tick d
  | shutdown =>
    cases h
    exact .shutdown
  | acceptFailed survived =>
    cases survived with
    | true =>
      cases h
      exact .survive
    | false =>
      cases h
      exact .acceptFailed
  | accept =>
    simp only [step] at h
    split_ifs at h with haccepting hpermits
    · cases h
      exact .accept haccepting hpermits
    · cases h
      exact .refuse haccepting (Nat.eq_zero_of_not_pos hpermits)
  | handshook id serves =>
    simp only [step] at h
    split_ifs at h with hconnection hserves
    · cases h
      obtain rfl : serves = true := hserves
      exact .handshook hconnection
    · cases h
      exact .release _ hconnection
  | disconnected id =>
    simp only [step] at h
    split_ifs at h with hconnection
    cases h
    exact .release _ hconnection
  | request id path =>
    simp only [step] at h
    by_cases hopen :
        (s.connections.any fun connection => connection.id = id && !connection.handshaking) = true ∧
          s.streamsOn id < maxConcurrentStreams
    · rw [if_pos hopen] at h
      cases h
      exact .request hopen.1 hopen.2
    · rw [if_neg hopen] at h
      cases h
  | frame j frame =>
    simp only [step] at h
    split at h
    · next id read deadline hat =>
      split at h
      · next read' hpush =>
        cases h
        exact .read hat hpush
      · cases h
        exact .endRead hat
    · cases h
  | bodyEnded j | bodyFailed j =>
    simp only [step] at h
    split at h
    · next hat =>
      cases h
      exact .endRead hat
    · cases h
  | bodyTimedOut j =>
    simp only [step] at h
    split at h
    · next hat =>
      split_ifs at h
      cases h
      exact .endRead hat
    · cases h
  | left j =>
    cases h
    exact .left j

end Step

/-! ## What a step does to the reads -/

section Step

variable {tls : Bool} {maxConcurrentStreams : Nat} {s s' : Listener} {e : Event}
variable {o : List Observed}

/-- The reads hold no more than their number allows. -/
theorem held_le (s : Listener) : s.held ≤ s.reads * maxSendTxBytes := by
  unfold held reads
  induction s.streams with
  | nil => exact Nat.zero_le _
  | cons stream streams ih =>
    rw [List.map_cons, List.sum_cons]
    rcases stream with ⟨id, read | _⟩
    · have hread := read.held_le
      rw [List.countP_cons_of_pos rfl, Nat.add_one_mul]
      simp only [Stream.held]
      omega
    · rw [List.countP_cons_of_neg (by simp [Stream.isReading])]
      simp only [Stream.held]
      omega

theorem reads_put {j : Nat} {stream next : Stream} (hat : s.streams[j]? = some stream)
    (hreading : stream.isReading = true) : (s.put j next).reads ≤ s.reads := by
  rcases List.getElem?_eq_some_iff.mp hat with ⟨hlt, hget⟩
  have hpos : 0 < s.streams.countP Stream.isReading :=
    List.countP_pos_iff.mpr ⟨stream, List.mem_of_getElem? hat, hreading⟩
  unfold reads put
  rw [List.countP_set hlt, hget, if_pos hreading]
  split_ifs <;> omega

/-- Only a request for the classifier adds a read. -/
theorem reads_step (h : step tls maxConcurrentStreams s e = some (s', o)) :
    s'.reads ≤ s.reads ∨
      (∃ id path, e = .request id path ∧ isClassified path = true) ∧ s'.reads = s.reads + 1 := by
  cases stepped_of_step h with
  | @request id path hserves hroom =>
    by_cases hclassified : isClassified path = true
    · refine .inr ⟨⟨id, path, rfl, hclassified⟩, ?_⟩
      simp [reads, Stream.isReading, hclassified]
    · left
      simp [reads, Stream.isReading, hclassified]
  | read hat hpush => exact .inl (reads_put hat rfl)
  | endRead hat => exact .inl (reads_put hat rfl)
  | left j => exact .inl (List.Sublist.countP_le (List.eraseIdx_sublist _ _))
  | tick | shutdown | survive | acceptFailed | accept | refuse | handshook | release =>
    exact .inl le_rfl

end Step

/-! ## Permits -/

theorem release_permits {s : Listener} {id : Nat} (p : Connection → Bool)
    (h : (s.connections.any fun connection => connection.id = id && p connection) = true) :
    (s.release id).connections.length + (s.release id).permits =
      s.connections.length + s.permits := by
  rcases List.any_eq_true.mp h with ⟨connection, hmem, hid⟩
  have hid : decide (connection.id = id) = true := by
    rw [Bool.and_eq_true] at hid
    exact hid.1
  have hpos := List.length_pos_of_mem hmem
  have hlen : (s.connections.eraseP fun connection => connection.id = id).length =
      s.connections.length - 1 := List.length_eraseP_of_mem hmem hid
  unfold release
  simp only [hlen]
  omega

/-- Connections and free permits are as many as the limit. -/
theorem connections_of_runs {tls : Bool} {maxConcurrentStreams : Nat} {s : Listener}
    {t : List Observed} (h : Runs (step tls maxConcurrentStreams) initial t s) :
    s.connections.length + s.permits = maxInflightConnections := by
  refine h.always (P := fun s => s.connections.length + s.permits = maxInflightConnections)
    rfl ?_
  intro s e o s' ih hstep
  cases stepped_of_step hstep with
  | accept haccepting hpermits =>
    rw [List.length_append, List.length_singleton]
    simp only
    omega
  | handshook hconnection =>
    rw [List.length_map]
    exact ih
  | release state hconnection =>
    rw [release_permits state hconnection]
    exact ih
  | tick | shutdown | survive | acceptFailed | refuse | request | read | endRead | left =>
    exact ih

/-! ## The bound -/

/-- The event starts the read of a body. -/
def Event.startsRead : Event → Bool
  | .request _ path => isClassified path
  | _ => false

/-- A read starts only while fewer than the limit are in progress. -/
def ReadStartsWithin (s : Listener) (e : Event) : Prop :=
  e.startsRead = true → s.reads < maxInflightConnections

instance (s : Listener) (e : Event) : Decidable (ReadStartsWithin s e) :=
  inferInstanceAs (Decidable (_ → _))

section Bound

variable (tls : Bool) (maxConcurrentStreams : Nat)

theorem reads_of_guarded {s : Listener} {t : List Observed}
    (h : Runs (guarded (step tls maxConcurrentStreams) ReadStartsWithin) initial t s) :
    s.reads ≤ maxInflightConnections := by
  refine h.always (P := fun s => s.reads ≤ maxInflightConnections) (Nat.zero_le _) ?_
  intro s e o s' ih hstep
  rcases of_guarded hstep with ⟨hwithin, hstep⟩
  rcases reads_step hstep with hle | ⟨⟨id, path, rfl, hclassified⟩, hone⟩
  · omega
  · have hroom : s.reads < maxInflightConnections := hwithin hclassified
    omega

variable {maxConcurrentStreams}

/-- A reading stream can be sent all that its limit allows. -/
theorem step_fill {s : Listener} {pre rest : List Stream} {id deadline : Nat} {read : BodyRead}
    (hs : s.streams = pre ++ ⟨id, .reading read deadline⟩ :: rest) :
    ∃ full : BodyRead, full.held = maxSendTxBytes ∧
      step tls maxConcurrentStreams s (.frame pre.length read.lastFrame) =
        some ({ s with streams := pre ++ ⟨id, .reading full deadline⟩ :: rest }, []) := by
  rcases read.push_lastFrame with ⟨full, hpush, hheld⟩
  refine ⟨full, hheld, ?_⟩
  simp [step, hpush, put, hs]

/-- And so can all of them, one after the other. -/
theorem runs_fill (s : Listener) (pre rest : List Stream) (hs : s.streams = pre ++ rest) :
    ∃ full, Runs (step tls maxConcurrentStreams) s [] { s with streams := pre ++ full } ∧
      (full.map Stream.held).sum = rest.countP Stream.isReading * maxSendTxBytes := by
  induction rest generalizing s pre with
  | nil =>
    refine ⟨[], ?_, by simp⟩
    rw [← hs]
    exact .refl
  | cons stream rest ih =>
    rcases stream with ⟨id, ⟨read, deadline⟩ | _⟩
    · rcases step_fill tls hs with ⟨whole, hheld, hstep⟩
      obtain ⟨full, hruns, hsum⟩ := ih
        { s with streams := pre ++ ⟨id, .reading whole deadline⟩ :: rest }
        (pre ++ [⟨id, .reading whole deadline⟩]) (by simp)
      refine ⟨⟨id, .reading whole deadline⟩ :: full, ?_, ?_⟩
      · simpa using (Runs.single hstep).trans hruns
      · rw [List.map_cons, List.sum_cons, hsum, List.countP_cons_of_pos rfl, Nat.add_one_mul]
        simp only [Stream.held, hheld]
        omega
    · obtain ⟨full, hruns, hsum⟩ := ih s (pre ++ [⟨id, .handling⟩]) (by simpa using hs)
      refine ⟨⟨id, .handling⟩ :: full, ?_, ?_⟩
      · simpa using hruns
      · rw [List.map_cons, List.sum_cons, hsum,
          List.countP_cons_of_neg (by simp [Stream.isReading])]
        simp [Stream.held]

variable (maxConcurrentStreams) in
/-- Every read in progress can be made to hold as much as its limit allows. -/
theorem held_full (s : Listener) : ∃ s', Runs (step tls maxConcurrentStreams) s [] s' ∧
    s'.held = s.reads * maxSendTxBytes := by
  rcases runs_fill tls s [] s.streams rfl with ⟨full, hruns, hsum⟩
  exact ⟨_, hruns, hsum⟩

variable (maxConcurrentStreams)

/-- The bytes held stay within the bound in every run in which a read starts only while
fewer than the limit are in progress; and as soon as more are, the bytes that they may be
sent exceed it. -/
theorem held_bounded :
    (∀ t s, Runs (guarded (step tls maxConcurrentStreams) ReadStartsWithin) initial t s →
      s.held ≤ maxInflightConnections * maxSendTxBytes) ∧
    ∀ t s, Runs (step tls maxConcurrentStreams) initial t s → maxInflightConnections < s.reads →
      ∃ t' s', Runs (step tls maxConcurrentStreams) s t' s' ∧
        maxInflightConnections * maxSendTxBytes < s'.held := by
  constructor
  · intro t s h
    calc s.held ≤ s.reads * maxSendTxBytes := held_le s
      _ ≤ maxInflightConnections * maxSendTxBytes :=
        Nat.mul_le_mul_right _ (reads_of_guarded tls maxConcurrentStreams h)
  · intro t s _ hmore
    rcases held_full tls maxConcurrentStreams s with ⟨s', hruns, hheld⟩
    refine ⟨[], s', hruns, ?_⟩
    rw [hheld]
    exact Nat.mul_lt_mul_of_pos_right hmore (by decide)

end Bound

/-- Three submissions on two connections, of which one is read and two are being read. -/
theorem held_bounded_twoConnections : ∃ t s,
    Runs (guarded (step false 200) ReadStartsWithin) initial t s ∧ s.connections.length = 2 ∧
      s.streams.length = 3 ∧ s.reads = 2 ∧ s.held = 4 ∧
      s.held ≤ maxInflightConnections * maxSendTxBytes := by
  have hrun := Runs.of_execute (show execute (guarded (step false 200) ReadStartsWithin) initial
    [.accept, .accept, .request 0 sendTransactionPath, .request 0 sendTransactionPath,
      .request 1 sendTransactionPath, .frame 0 (.data [0, 0, 0]), .frame 1 (.data [0, 0]),
      .bodyEnded 1, .frame 2 (.data [0])] = some (_, _) from rfl)
  exact ⟨_, _, hrun, rfl, rfl, rfl, rfl, (held_bounded false 200).1 _ _ hrun⟩

/-! ## Streams multiplexed on two connections -/

/-- Requests for the classifier on a connection that serves, as many as it has room for. -/
theorem runs_request {tls : Bool} {maxConcurrentStreams : Nat} {s : Listener} (id : Nat)
    (hserves : (s.connections.any fun connection =>
      connection.id = id && !connection.handshaking) = true) (k : Nat)
    (hroom : s.streamsOn id + k ≤ maxConcurrentStreams) :
    Runs (step tls maxConcurrentStreams) s []
      { s with
        streams := s.streams ++
          List.replicate k ⟨id, .reading .start (s.now + bodyReadTimeout)⟩ } := by
  induction k with
  | zero => simpa using Runs.refl
  | succ k ih =>
    have hclassified : isClassified sendTransactionPath = true := by decide
    apply (ih (by omega)).snoc (o := []) (e := .request id sendTransactionPath)
    have hcount : ({ s with
        streams := s.streams ++
          List.replicate k ⟨id, .reading .start (s.now + bodyReadTimeout)⟩ } :
          Listener).streamsOn id < maxConcurrentStreams := by
      simp only [streamsOn, List.countP_append, List.countP_replicate, decide_true, if_true]
      unfold streamsOn at hroom
      omega
    simp only [step, hserves, hcount, and_self, if_true, hclassified]
    simp [List.replicate_succ']

/-- The default limit of streams on a connection. -/
def defaultMaxConcurrentStreams : Nat := 200

/-- Two connections hold more than the bound. -/
theorem held_unbounded : ∃ t s, Runs (step false defaultMaxConcurrentStreams) initial t s ∧
    maxInflightConnections * maxSendTxBytes < s.held := by
  have hopened := Runs.of_execute (show execute (step false defaultMaxConcurrentStreams) initial
    [.accept, .accept] = some (⟨0, true, 254, 2, [⟨0, false⟩, ⟨1, false⟩], []⟩,
      [.served 0, .served 1]) from rfl)
  have hfirst := hopened.trans (runs_request 0 rfl 200 (by decide))
  have hsecond := hfirst.trans (runs_request 1 rfl 57 (by decide))
  obtain ⟨s, hruns, hheld⟩ := held_full false defaultMaxConcurrentStreams
    { now := 0
      accepting := true
      permits := 254
      accepted := 2
      connections := [⟨0, false⟩, ⟨1, false⟩]
      streams := [] ++ List.replicate 200 ⟨0, .reading .start (0 + bodyReadTimeout)⟩ ++
        List.replicate 57 ⟨1, .reading .start (0 + bodyReadTimeout)⟩ }
  refine ⟨_, s, hsecond.trans hruns, ?_⟩
  rw [hheld]
  simp only [reads, List.countP_append, List.countP_replicate, List.countP_nil, Stream.isReading,
    if_true]
  decide

end Listener

end ZeroShim
