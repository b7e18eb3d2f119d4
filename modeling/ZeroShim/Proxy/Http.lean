import ZeroShim.Library.Bytes

/-!
# HTTP messages

Headers, bodies, requests and responses as far as the proxy reads and rewrites
them, and the buffering of a body under a size limit and a deadline.

Main results:

- Theorem {lit}`Body.collect_eq_ok_iff`: a body is buffered exactly when it ended
  by itself within the limit, and then the buffer is its concatenated data.
- Theorem {lit}`replayBody_collect`: a replayed body is the buffered one.
-/

namespace ZeroShim

open Library

/-! ## Headers -/

/-- The bytes of an ASCII text. -/
def asciiBytes (s : String) : Bytes := s.toList.map fun c => UInt8.ofNat c.toNat

/-- A header map: values by lower-case name, in the order they arrived. -/
structure HeaderMap where
  entries : List (String × Bytes)
deriving DecidableEq, Repr

namespace HeaderMap

/-- No headers. -/
def empty : HeaderMap := ⟨[]⟩

/-- The first value of a header. -/
def get (headers : HeaderMap) (name : String) : Option Bytes :=
  (headers.entries.find? fun entry => entry.1 = name).map Prod.snd

def containsKey (headers : HeaderMap) (name : String) : Bool := (headers.get name).isSome

/-- Remove every value of a header. -/
def remove (headers : HeaderMap) (name : String) : HeaderMap :=
  ⟨headers.entries.filter fun entry => entry.1 ≠ name⟩

/-- Replace every value of a header by one. -/
def insert (headers : HeaderMap) (name : String) (value : Bytes) : HeaderMap :=
  ⟨(headers.remove name).entries ++ [(name, value)]⟩

/-- Add the headers of another map, replacing those it has. -/
def extend (headers other : HeaderMap) : HeaderMap :=
  ⟨headers.entries.filter (fun entry => !other.containsKey entry.1) ++ other.entries⟩

end HeaderMap

/-- {lit}`HeaderValue::to_str`: the text of a value of visible ASCII bytes. -/
def headerText (value : Bytes) : Option (List Char) :=
  if value.all fun b => (32 ≤ b.toNat && b.toNat < 127) || b.toNat == 9 then
    some (value.map fun b => Char.ofNat b.toNat)
  else none

/-! ## Bodies -/

/-- One frame of a streamed body. -/
inductive Frame where
  | data (bytes : Bytes)
  | trailers (headers : HeaderMap)
deriving DecidableEq, Repr

/-- How a streamed body stopped: by itself, with an error, or not before the
reader's deadline. -/
inductive BodyEnd where
  | complete
  | failed (err : String)
  | stalled
deriving DecidableEq, Repr

/-- A streamed body. -/
structure Body where
  frames : List Frame
  ending : BodyEnd
deriving DecidableEq, Repr

/-- A body without frames. -/
def Body.empty : Body := ⟨[], .complete⟩

/-- A body of one data frame. -/
def Body.full (bytes : Bytes) : Body := ⟨[.data bytes], .complete⟩

/-- The data of a body, without its framing. -/
def Frame.dataBytes : Frame → Bytes
  | .data bytes => bytes
  | .trailers _ => []

def Body.dataBytes (body : Body) : Bytes := body.frames.flatMap Frame.dataBytes

/-- A buffered body. -/
structure Collected where
  data : Bytes
  trailers : Option HeaderMap
deriving DecidableEq, Repr

/-- Add a frame to the buffer. -/
def Collected.pushFrame (collected : Collected) : Frame → Collected
  | .data bytes => { collected with data := collected.data ++ bytes }
  | .trailers headers =>
    match collected.trailers with
    | some current => { collected with trailers := some (current.extend headers) }
    | none => { collected with trailers := some headers }

/-- Why a body could not be buffered. -/
inductive ReadFailure where
  | lengthLimit
  | stream (err : String)
  | timedOut
deriving DecidableEq, Repr

/-- Buffer the frames that are left, of which the data must fit {lit}`remaining`. -/
def collectFrames (remaining : Nat) (collected : Collected) (ending : BodyEnd) :
    List Frame → Except ReadFailure Collected
  | [] =>
    match ending with
    | .complete => .ok collected
    | .failed err => .error (.stream err)
    | .stalled => .error .timedOut
  | frame :: frames =>
    if remaining < frame.dataBytes.length then .error .lengthLimit
    else
      collectFrames (remaining - frame.dataBytes.length) (collected.pushFrame frame) ending
        frames

/-- {lit}`Limited::new(body, limit).collect()` under a deadline -/
def Body.collect (body : Body) (limit : Nat) : Except ReadFailure Collected :=
  collectFrames limit ⟨[], none⟩ body.ending body.frames

@[simp] theorem Collected.pushFrame_data (collected : Collected) (frame : Frame) :
    (collected.pushFrame frame).data = collected.data ++ frame.dataBytes := by
  cases frame with
  | data bytes => rfl
  | trailers headers =>
    unfold pushFrame
    cases collected.trailers <;> simp [Frame.dataBytes]

/-- The frames that are left are buffered exactly when they end by themselves and
fit. -/
theorem collectFrames_eq_ok_iff {remaining : Nat} {start collected : Collected}
    {ending : BodyEnd} {frames : List Frame} :
    collectFrames remaining start ending frames = .ok collected ↔
      ending = .complete ∧ (frames.flatMap Frame.dataBytes).length ≤ remaining ∧
        collected = frames.foldl Collected.pushFrame start := by
  induction frames generalizing remaining start with
  | nil =>
    cases ending <;> simp [collectFrames, eq_comm]
  | cons frame frames ih =>
    unfold collectFrames
    by_cases hfit : remaining < frame.dataBytes.length
    · rw [if_pos hfit]
      simp only [List.flatMap_cons, List.length_append, reduceCtorEq, false_iff]
      rintro ⟨_, hlen, _⟩
      omega
    · rw [if_neg hfit, ih, List.flatMap_cons, List.length_append, List.foldl_cons]
      have hlen : (frames.flatMap Frame.dataBytes).length ≤
          remaining - frame.dataBytes.length ↔
          frame.dataBytes.length + (frames.flatMap Frame.dataBytes).length ≤ remaining := by
        omega
      rw [hlen]

theorem foldl_pushFrame_data (frames : List Frame) (start : Collected) :
    (frames.foldl Collected.pushFrame start).data =
      start.data ++ frames.flatMap Frame.dataBytes := by
  induction frames generalizing start with
  | nil => simp
  | cons frame frames ih =>
    rw [List.foldl_cons, ih, Collected.pushFrame_data, List.flatMap_cons, List.append_assoc]

/-- A body is buffered exactly when it ended by itself within the limit. -/
theorem Body.collect_eq_ok_iff {body : Body} {limit : Nat} :
    (∃ collected, body.collect limit = .ok collected) ↔
      body.ending = .complete ∧ body.dataBytes.length ≤ limit := by
  simp only [Body.collect, collectFrames_eq_ok_iff, Body.dataBytes]
  constructor
  · rintro ⟨collected, hending, hlen, _⟩
    exact ⟨hending, hlen⟩
  · rintro ⟨hending, hlen⟩
    exact ⟨_, hending, hlen, rfl⟩

/-- The buffer holds the data of the body. -/
theorem Body.collect_data {body : Body} {limit : Nat} {collected : Collected}
    (h : body.collect limit = .ok collected) :
    body.ending = .complete ∧ collected.data.length ≤ limit ∧
      collected.data = body.dataBytes := by
  rcases collectFrames_eq_ok_iff.mp h with ⟨hending, hlen, rfl⟩
  have hdata := foldl_pushFrame_data body.frames ⟨[], none⟩
  rw [List.nil_append] at hdata
  refine ⟨hending, ?_, hdata⟩
  rw [hdata]
  exact hlen

/-- A body of one frame is buffered where it fits. -/
theorem Body.collect_full {bytes : Bytes} {limit : Nat} (h : bytes.length ≤ limit) :
    (Body.full bytes).collect limit = .ok ⟨bytes, none⟩ := by
  unfold Body.collect
  rw [collectFrames_eq_ok_iff]
  refine ⟨rfl, ?_, rfl⟩
  simpa [Body.full, Frame.dataBytes] using h

/-! ## Replaying -/

/-- The frames of a replayed body: its data, when there is any, and its trailers. -/
def replayFrames (data : Bytes) (trailers : Option HeaderMap) : List Frame :=
  (if data.isEmpty then [] else [.data data]) ++
    match trailers with
    | some headers => [.trailers headers]
    | none => []

/-- {lit}`ReplayBody`: one data frame, then the trailers. -/
def replayBody (data : Bytes) (trailers : Option HeaderMap) : Body :=
  ⟨replayFrames data trailers, .complete⟩

/-- A replayed body is the buffered one. -/
theorem replayBody_collect (collected : Collected) {limit : Nat}
    (h : collected.data.length ≤ limit) :
    (replayBody collected.data collected.trailers).collect limit = .ok collected := by
  rcases collected with ⟨data, trailers⟩
  unfold Body.collect replayBody
  rw [collectFrames_eq_ok_iff]
  cases data with
  | nil => cases trailers <;> simp [replayFrames, Frame.dataBytes, Collected.pushFrame]
  | cons b bs =>
    cases trailers <;> simpa [replayFrames, Frame.dataBytes, Collected.pushFrame] using h

/-! ## Requests and responses -/

/-- A path with its query. -/
structure PathAndQuery where
  path : String
  query : Option String
deriving DecidableEq, Repr

/-- A request target. -/
structure Uri where
  scheme : Option String
  authority : Option String
  pathAndQuery : Option PathAndQuery
deriving DecidableEq, Repr

/-- The path of a target; an empty path reads as {lit}`/`. -/
def Uri.path (uri : Uri) : String :=
  match uri.pathAndQuery with
  | some pathAndQuery => if pathAndQuery.path = "" then "/" else pathAndQuery.path
  | none => ""

structure Request where
  method : String
  uri : Uri
  headers : HeaderMap
  body : Body
deriving DecidableEq, Repr

structure Response where
  status : Nat
  headers : HeaderMap
  body : Body
deriving DecidableEq, Repr

/-- {lit}`Response::new`: status 200 and no headers. -/
def Response.new (body : Body) : Response := ⟨200, .empty, body⟩

/-- The outcome of an exchange under a deadline. -/
inductive Exchange (α : Type) where
  | done (reply : α)
  | failed (err : String)
  | timedOut
deriving DecidableEq, Repr

end ZeroShim
