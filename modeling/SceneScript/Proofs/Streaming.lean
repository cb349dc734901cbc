import SceneScript.Proofs.CursorRun

set_option autoImplicit false

namespace SceneScript

namespace Cursor

variable {cursor : Cursor} {request : Request} {last : Token}

def Reply.token? : Reply → Option Token
  | .token found => some found
  | _ => none

def tokensOf (steps : List (Reply × Cursor)) : List Token := steps.filterMap (·.1.token?)

def Request.LooksAhead (request : Request) : Prop :=
  request = .currentChar ∨ request = .skipBlanks

def handedOut (tokens : List Token) (last : Token) (count : Nat) : List Token :=
  tokens.take count ++ List.replicate (count - tokens.length) last

def leftAfter (tokens : List Token) (last : Token) (count : Nat) : List Token :=
  if count < tokens.length then tokens.drop count else [last]

theorem handedOut_cons (token : Token) (tokens : List Token) (count : Nat) :
    handedOut (token :: tokens) last (count + 1) = token :: handedOut tokens last count := by
  simp [handedOut]

theorem leftAfter_cons (token : Token) (tokens : List Token) (count : Nat) :
    leftAfter (token :: tokens) last (count + 1) = leftAfter tokens last count := by
  simp [leftAfter]

theorem handedOut_singleton (last : Token) (count : Nat) :
    handedOut [last] last count = List.replicate count last := by
  cases count <;> simp [handedOut, List.replicate_succ]

theorem leftAfter_singleton (last : Token) (count : Nat) :
    leftAfter [last] last count = [last] := by
  cases count <;> simp [leftAfter]

theorem skipBlanks_skipBlanks (cursor : Cursor) :
    cursor.skipBlanks.skipBlanks = cursor.skipBlanks := by
  have nothing : (cursor.ahead.dropWhile Text.isBlank).takeWhile Text.isBlank = [] :=
    (MaximalRun.ofList Text.isBlank cursor.ahead).takeWhile_rest
  rw [skipBlanks, readRun, ahead_skipBlanks, nothing]
  simp [advance]

theorem drain_skipBlanks (cursor : Cursor) : cursor.skipBlanks.drain = cursor.drain := by
  have same : cursor.skipBlanks.next = cursor.next := by
    simp only [next, skipBlanks_skipBlanks]
  rw [drain_eq, same, ← drain_eq]

theorem perform_of_looksAhead (looks : request.LooksAhead) (cursor : Cursor) :
    (cursor.perform request).1.token? = none ∧
      (cursor.perform request).2.drain = cursor.drain := by
  rcases looks with rfl | rfl
  · simp only [perform]
    split <;> exact ⟨rfl, rfl⟩
  · exact ⟨rfl, drain_skipBlanks cursor⟩

theorem drain_of_ended (ended : cursor.next.1.kind = .endOfInput) :
    cursor.drain.1 = [cursor.next.1] ∧ cursor.next.2.drain.1 = [cursor.next.1] := by
  obtain ⟨nothing, closing⟩ := next_ended ended
  have again : cursor.next.2.next.1 = cursor.next.1 := by
    have exhausted := (exhausted_of_end nothing).again [.nextToken] 0 rfl
    rw [← closing] at exhausted
    simpa [run, perform] using congrArg (Option.map Prod.fst) exhausted
  constructor
  · rw [drain_eq, if_pos ended]
  · rw [drain_eq, again, if_pos ended]

theorem drain_of_going (going : cursor.next.1.kind ≠ .endOfInput) :
    cursor.drain.1 = cursor.next.1 :: cursor.next.2.drain.1 := by
  rw [drain_eq, if_neg going]

structure Streams (cursor : Cursor) (requests : List Request) (last : Token) : Prop where
  out : tokensOf (cursor.run requests) =
    handedOut cursor.drain.1 last (requests.count .nextToken)
  left : (cursor.reached requests).drain.1 =
    leftAfter cursor.drain.1 last (requests.count .nextToken)

theorem streams_nil (closing : cursor.drain.1.getLast? = some last) : Streams cursor [] last where
  out := by simp [run, tokensOf, handedOut]
  left := by
    have filled : 0 < cursor.drain.1.length := by
      rw [List.length_pos_iff]
      rintro none
      rw [none] at closing
      cases closing
    simp [reached, leftAfter, filled]

theorem Streams.of_looksAhead {requests : List Request} (looks : request.LooksAhead)
    (more : Streams (cursor.perform request).2 requests last) :
    Streams cursor (request :: requests) last := by
  obtain ⟨silent, same⟩ := perform_of_looksAhead looks cursor
  have uncounted : (request :: requests).count .nextToken = requests.count .nextToken := by
    rcases looks with rfl | rfl <;> simp
  constructor
  case out => rw [uncounted, run, tokensOf, List.filterMap_cons, silent, ← same]; exact more.out
  case left => rw [uncounted, reached, more.left, same]

theorem tokensOf_nextToken (cursor : Cursor) (requests : List Request) :
    tokensOf (cursor.run (.nextToken :: requests)) =
      cursor.next.1 :: tokensOf (cursor.next.2.run requests) := rfl

theorem Streams.of_nextToken {requests : List Request}
    (closing : cursor.drain.1.getLast? = some last)
    (more : cursor.next.2.drain.1.getLast? = some last → Streams cursor.next.2 requests last) :
    Streams cursor (.nextToken :: requests) last := by
  by_cases ended : cursor.next.1.kind = .endOfInput
  next =>
    obtain ⟨single, again⟩ := drain_of_ended ended
    obtain rfl : cursor.next.1 = last := by simpa [single] using closing
    have later := more (by rw [again]; rfl)
    constructor
    case out =>
      rw [tokensOf_nextToken, later.out, again, single, handedOut_singleton, handedOut_singleton,
        List.count_cons_self, List.replicate_succ]
    case left =>
      have left := later.left
      rw [again, leftAfter_singleton] at left
      rw [single, leftAfter_singleton]
      exact left
  next =>
    have split := drain_of_going ended
    have later := more (by
      have filled := (cursor.next.2).drain_ended.2
      rw [split, List.getLast?_cons, filled] at closing
      rw [filled]
      exact closing)
    constructor
    case out =>
      rw [tokensOf_nextToken, later.out, split, List.count_cons_self, handedOut_cons]
    case left => rw [split, List.count_cons_self, leftAfter_cons]; exact later.left

theorem streams {requests : List Request}
    (steady : ∀ request ∈ requests, request = .nextToken ∨ request.LooksAhead)
    (closing : cursor.drain.1.getLast? = some last) : Streams cursor requests last := by
  induction requests generalizing cursor with
  | nil => exact streams_nil closing
  | cons request requests ih =>
      obtain ⟨first, others⟩ := List.forall_mem_cons.mp steady
      rcases first with rfl | looks
      · exact .of_nextToken closing fun still => ih others still
      · exact .of_looksAhead looks
          (ih others (by rw [(perform_of_looksAhead looks cursor).2]; exact closing))

/-- Tokens come one at a time as they come all at once, whatever is looked at in between, and a
drain gives those that did not come yet. -/
theorem run_streams {requests : List Request}
    (steady : ∀ request ∈ requests, request = .nextToken ∨ request.LooksAhead) (text : Text) :
    ∃ last, (tokenize text).getLast? = some last ∧ last.kind = .endOfInput ∧
      tokensOf ((ofText text).run requests) =
        handedOut (tokenize text) last (requests.count .nextToken) ∧
      ∃ drained, (ofText text).run (requests ++ [.drain]) = (ofText text).run requests ++
        [(.tokens (leftAfter (tokenize text) last (requests.count .nextToken)), drained)] := by
  have closing := (ofText text).drain_ended.2
  have streamed := streams steady closing
  refine ⟨_, closing, rfl, streamed.out, (ofText text).reached requests |>.drain.2, ?_⟩
  rw [run_append, tokenize, ← streamed.left]
  rfl

def glances : List Request :=
  [.skipBlanks, .nextToken, .currentChar, .skipBlanks, .nextToken, .nextToken, .skipBlanks]

theorem stop_streamed :
    tokensOf ((ofText " end ").run glances) =
        [⟨.keyword .stop, "end", ⟨1, 5⟩⟩, ⟨.endOfInput, [], ⟨1, 6⟩⟩, ⟨.endOfInput, [], ⟨1, 6⟩⟩] ∧
      ∃ drained, (ofText " end ").run (glances ++ [.drain]) =
        (ofText " end ").run glances ++ [(.tokens [⟨.endOfInput, [], ⟨1, 6⟩⟩], drained)] := by
  have steady : ∀ request ∈ glances, request = .nextToken ∨ request.LooksAhead := by
    simp [glances, Request.LooksAhead]
  have tokens : tokenize " end " =
      [⟨.keyword .stop, "end", ⟨1, 5⟩⟩, ⟨.endOfInput, [], ⟨1, 6⟩⟩] := by
    decide +kernel
  obtain ⟨last, closing, _, out, drained, left⟩ := run_streams steady " end "
  rw [tokens] at closing out left
  obtain rfl : ⟨.endOfInput, [], ⟨1, 6⟩⟩ = last := Option.some.inj closing
  exact ⟨out, drained, left⟩

end Cursor

end SceneScript
