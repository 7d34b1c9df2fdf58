import HivePoint.Native.GatewayUpstream

/-!
# Reading an upstream body

The loop of `readResponseBody` adds up the sizes of the chunks before it keeps them. Its variables
are followed from statement to statement, also when it throws.

## Key results

- `exec_readChunks_of_le`, `exec_readChunks_of_lt`: the loop reads every chunk, or throws at the
  first one over the limit
- `kept_feed_readChunks`: after no statement it keeps more than the limit
- `readResponseBody_chunking`: only the concatenation of the chunks matters
-/

namespace HivePoint

open Prog

/-- The bytes of the chunks that are there. -/
def concatenation (values : List (Option (List UInt8))) : List UInt8 := values.flatMap (·.getD [])

/-- The bytes that the reader keeps. -/
def BodyReader.kept (reader : BodyReader) : List UInt8 := reader.chunks.flatten

/-- Between two turns the total is that of the kept chunks, and within the limit. -/
structure BodyReader.Within (limit : Nat) (reader : BodyReader) : Prop where
  counts : reader.totalBytes = reader.kept.length
  le_limit : reader.totalBytes ≤ limit

/-- The empty reader is within every limit. -/
private theorem within_start (limit : Nat) : BodyReader.start.Within limit :=
  ⟨rfl, Nat.zero_le limit⟩

/-- The outcome of a reading. -/
def readOutcome (limit : Nat) (body : ResponseBody) : Except AppError (Option (List UInt8)) :=
  ((readResponseBody limit body).exec () .start).1

/-- The reader after so many of its statements, or at its end. -/
def readerAfter (limit : Nat) (body : ResponseBody) (statements : Nat) : BodyReader :=
  ((readResponseBody limit body).feed (List.replicate statements ()) .start).2.2

section Chunks

variable {limit : Nat} {reader reader' : BodyReader} {values : List (Option (List UInt8))}

/-- A chunk comes before the later ones. -/
private theorem concatenation_some (value : List UInt8) (values : List (Option (List UInt8))) :
    concatenation (some value :: values) = value ++ concatenation values := rfl

/-! ### To the end -/

/-- A chunk within the limit. -/
private theorem exec_readChunks_some_of_le {value : List UInt8}
    (h : reader.totalBytes + value.length ≤ limit) :
    (readChunks limit (some value :: values)).exec () reader =
      (readChunks limit values).exec ()
        ⟨reader.chunks ++ [value], reader.totalBytes + value.length⟩ := by
  simp only [readChunks, readChunk, addByteLength, pushChunk, assertResponseBodySize, if_pos h,
    exec_bind, exec_stmt, exec_pure]

/-- A chunk over the limit. -/
private theorem exec_readChunks_some_of_lt {value : List UInt8}
    (h : limit < reader.totalBytes + value.length) :
    ((readChunks limit (some value :: values)).exec () reader).1 =
      .error (gatewayResponseBodyTooLarge (reader.totalBytes + value.length) limit) := by
  simp only [readChunks, readChunk, addByteLength, assertResponseBodySize,
    if_neg (Nat.not_le.mpr h), exec_bind, exec_stmt, exec_throw]

/-- Within the limit all chunks are kept. -/
theorem exec_readChunks_of_le (h : reader.totalBytes + (concatenation values).length ≤ limit) :
    ∃ reader', (readChunks limit values).exec () reader = (.ok (), reader') ∧
      reader'.totalBytes = reader.totalBytes + (concatenation values).length ∧
      reader'.kept = reader.kept ++ concatenation values := by
  -- induction on the chunks; the reader is at what came before
  induction values generalizing reader with
  | nil => exact ⟨reader, rfl, rfl, (List.append_nil _).symm⟩
  | cons value values ih =>
    cases value with
    | none => exact ih h
    | some value =>
      rw [concatenation_some, List.length_append] at h
      rw [exec_readChunks_some_of_le (by omega)]
      obtain ⟨reader', hread, htotal, hkept⟩ := @ih
        ⟨reader.chunks ++ [value], reader.totalBytes + value.length⟩
        (by show reader.totalBytes + value.length + _ ≤ limit; omega)
      refine ⟨reader', hread, ?_, ?_⟩
      · rw [htotal, concatenation_some, List.length_append]
        exact Nat.add_assoc _ _ _
      · rw [hkept, concatenation_some, ← List.append_assoc]
        simp [BodyReader.kept]

/-- The running total is over the limit at the latest when it is complete. -/
theorem exec_readChunks_of_lt (hreader : reader.totalBytes ≤ limit)
    (h : limit < reader.totalBytes + (concatenation values).length) :
    ∃ actualBytes, limit < actualBytes ∧
      ((readChunks limit values).exec () reader).1 =
        .error (gatewayResponseBodyTooLarge actualBytes limit) := by
  -- induction on the chunks: the first one that does not fit is refused
  induction values generalizing reader with
  | nil => exact absurd h (Nat.not_lt.mpr hreader)
  | cons value values ih =>
    cases value with
    | none => exact ih hreader h
    | some value =>
      rw [concatenation_some, List.length_append] at h
      by_cases hle : reader.totalBytes + value.length ≤ limit
      · rw [exec_readChunks_some_of_le hle]
        exact @ih ⟨reader.chunks ++ [value], reader.totalBytes + value.length⟩ hle
          (by show limit < reader.totalBytes + value.length + _; omega)
      · exact ⟨_, Nat.not_le.mp hle, exec_readChunks_some_of_lt (Nat.not_le.mp hle)⟩

/-! ### Statement by statement -/

/-- One turn keeps no more than the limit at any of its statements, and comes to the next turn
    with a total within the limit. -/
private theorem feed_readChunk (hreader : reader.Within limit) (value : Option (List UInt8))
    (statements : List Unit) :
    ((readChunk limit value).feed statements reader).2.2.kept.length ≤ limit ∧
      (((readChunk limit value).feed statements reader).1 = some (.ok ()) →
        ((readChunk limit value).feed statements reader).2.2.Within limit) := by
  have hkept : reader.kept.length ≤ limit := hreader.counts ▸ hreader.le_limit
  cases value with
  | none => exact ⟨hkept, fun _ => hreader⟩
  | some value =>
    cases statements with
    | nil => exact ⟨hkept, fun h => (by cases h)⟩
    | cons _ statements =>
      by_cases hle : reader.totalBytes + value.length ≤ limit
      · simp only [readChunk, addByteLength, assertResponseBodySize, if_pos hle, feed_bind,
          feed_stmt_cons, feed_pure]
        cases statements with
        | nil => exact ⟨hkept, fun h => (by cases h)⟩
        | cons _ statements =>
          -- the chunk is pushed after its size has been checked
          have hpushed : BodyReader.Within limit
              ⟨reader.chunks ++ [value], reader.totalBytes + value.length⟩ := by
            refine ⟨?_, hle⟩
            show _ = (reader.chunks ++ [value]).flatten.length
            rw [hreader.counts]
            simp [BodyReader.kept]
          exact ⟨hpushed.counts ▸ hle, fun _ => hpushed⟩
      · simp only [readChunk, addByteLength, assertResponseBodySize, if_neg hle, feed_bind,
          feed_stmt_cons, feed_throw]
        exact ⟨hkept, fun h => (by cases h)⟩

/-- The loop keeps no more than the limit after any number of statements. -/
theorem kept_feed_readChunks (hreader : reader.Within limit) (values : List (Option (List UInt8)))
    (statements : List Unit) :
    ((readChunks limit values).feed statements reader).2.2.kept.length ≤ limit := by
  -- each turn keeps the reader within the limit, wherever it stops
  induction values generalizing reader statements with
  | nil => exact hreader.counts ▸ hreader.le_limit
  | cons value values ih =>
    obtain ⟨hkept, hwithin⟩ := feed_readChunk hreader value statements
    rw [readChunks, feed_bind]
    generalize (readChunk limit value).feed statements reader = turn at hkept hwithin
    obtain ⟨r, rest, reader'⟩ := turn
    cases r with
    | none => exact hkept
    | some r =>
      cases r with
      | error e => exact hkept
      | ok u => exact ih (hwithin rfl) rest

end Chunks

/-! ### Outcomes -/

section Outcome

variable {limit : Nat} {values : List (Option (List UInt8))}

/-- A body that fits is returned. -/
private theorem readOutcome_of_le (h : (concatenation values).length ≤ limit) :
    readOutcome limit (.stream values) =
      .ok (if concatenation values = [] then none else some (concatenation values)) := by
  obtain ⟨reader, hread, htotal, hkept⟩ :=
    @exec_readChunks_of_le limit .start values (by simpa [BodyReader.start] using h)
  have htotal : reader.totalBytes = (concatenation values).length := by
    simpa [BodyReader.start] using htotal
  have hkept : reader.chunks.flatten = concatenation values := hkept
  simp only [readOutcome, readResponseBody, concatChunks, exec_bind, exec_stmt, hread]
  rw [bufferConcat, hkept, htotal, List.take_length, Nat.sub_self, List.replicate_zero,
    List.append_nil]
  by_cases hempty : concatenation values = []
  · simp [hempty]
  · rw [if_pos (List.length_pos_iff.mpr hempty), if_neg hempty]

/-- A body that does not fit is refused, with a number of bytes above the limit. -/
private theorem readOutcome_of_lt (h : limit < (concatenation values).length) :
    ∃ actualBytes, limit < actualBytes ∧ readOutcome limit (.stream values) =
      .error (gatewayResponseBodyTooLarge actualBytes limit) := by
  obtain ⟨actualBytes, hlt, hread⟩ :=
    @exec_readChunks_of_lt limit .start values (Nat.zero_le limit)
      (by simpa [BodyReader.start] using h)
  refine ⟨actualBytes, hlt, ?_⟩
  unfold readOutcome readResponseBody
  rw [exec_bind]
  generalize (readChunks limit values).exec () .start = result at hread
  obtain ⟨r, reader⟩ := result
  obtain rfl : r = _ := hread
  rfl

end Outcome

/-- A body that is read chunk by chunk. The error says how much had been read, which is why errors
    are compared by their codes. -/
theorem readResponseBody_chunking (limit : Nat) (values : List (Option (List UInt8))) :
    (readOutcome limit (.stream values) =
        .ok (if concatenation values = [] then none else some (concatenation values)) ↔
      (concatenation values).length ≤ limit) ∧
    (limit < (concatenation values).length → ∃ actualBytes, limit < actualBytes ∧
      readOutcome limit (.stream values) = .error (gatewayResponseBodyTooLarge actualBytes limit)) ∧
    (∀ values', concatenation values' = concatenation values →
      (readOutcome limit (.stream values')).mapError (·.code) =
        (readOutcome limit (.stream values)).mapError (·.code)) ∧
    ∀ statements, (readerAfter limit (.stream values) statements).kept.length ≤ limit := by
  refine ⟨⟨fun hok => ?_, readOutcome_of_le⟩, readOutcome_of_lt, fun values' hsame => ?_,
    fun statements => ?_⟩
  · by_contra hlt
    obtain ⟨_, -, herror⟩ := readOutcome_of_lt (Nat.not_le.mp hlt)
    rw [herror] at hok
    cases hok
  · by_cases hle : (concatenation values).length ≤ limit
    · rw [readOutcome_of_le hle, readOutcome_of_le (hsame ▸ hle), hsame]
    · obtain ⟨_, -, herror⟩ := readOutcome_of_lt (Nat.not_le.mp hle)
      have hlt' : limit < (concatenation values').length := hsame ▸ Nat.not_le.mp hle
      obtain ⟨_, -, herror'⟩ := readOutcome_of_lt hlt'
      rw [herror, herror']
      rfl
  · have hloop := kept_feed_readChunks (within_start limit) values (List.replicate statements ())
    unfold readerAfter readResponseBody
    rw [feed_bind]
    generalize (readChunks limit values).feed (List.replicate statements ()) .start = loop at hloop
    obtain ⟨r, rest, reader⟩ := loop
    cases r with
    | none => exact hloop
    | some r =>
      cases r with
      | error e => exact hloop
      | ok u =>
        -- putting the chunks together changes nothing
        cases rest with
        | nil => exact hloop
        | cons _ rest => exact hloop

end HivePoint
