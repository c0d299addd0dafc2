import SealedExchange.Http.Stream

/-! # Requests in pieces

What is read from a connection depends on the bytes that arrive and not on the pieces in which they
arrive. The first empty line ends the head, wherever the pieces are cut, and no more bytes are read
in search of it than the bound on heads and one piece.
-/

namespace SealedExchange.Http

/-- What stands between a head and a body. -/
def emptyLine : Bytes := [0x0d, 0x0a, 0x0d, 0x0a]

/-- Bytes are cut at their first empty line. -/
structure CutsAt (bytes head rest : Bytes) : Prop where
  eq_append : bytes = head ++ (emptyLine ++ rest)
  first : ∀ other after, bytes = other ++ (emptyLine ++ after) → head.length ≤ other.length

/-! ## The end of a head -/

variable {bytes more head rest start : Bytes} {b : UInt8}

theorem splitHead?_emptyLine (rest : Bytes) : splitHead? (emptyLine ++ rest) = some ([], rest) :=
  rfl

theorem splitHead?_cons (hstart : ¬emptyLine <+: b :: bytes) :
    splitHead? (b :: bytes) = (splitHead? bytes).map fun (head, rest) => (b :: head, rest) := by
  rw [splitHead?]
  rintro body rfl rfl
  exact hstart ⟨body, rfl⟩

theorem CutsAt.cons (h : CutsAt bytes head rest) (hstart : ¬emptyLine <+: b :: bytes) :
    CutsAt (b :: bytes) (b :: head) rest := by
  refine ⟨by rw [h.eq_append, List.cons_append], fun other after hother => ?_⟩
  cases other with
  | nil => exact absurd ⟨after, hother.symm⟩ hstart
  | cons c other => exact Nat.succ_le_succ (h.first other after (List.cons.inj hother).2)

theorem CutsAt.tail (h : CutsAt (b :: bytes) head rest) (hstart : ¬emptyLine <+: b :: bytes) :
    ∃ head', head = b :: head' ∧ CutsAt bytes head' rest := by
  cases head with
  | nil => exact absurd ⟨rest, h.eq_append.symm⟩ hstart
  | cons c head =>
    obtain ⟨rfl, heq⟩ := List.cons.inj h.eq_append
    refine ⟨head, rfl, heq, fun other after hother => ?_⟩
    have hle := h.first (b :: other) after (by rw [hother, List.cons_append])
    exact Nat.le_of_succ_le_succ hle

theorem splitHead?_eq_some_iff : splitHead? bytes = some (head, rest) ↔ CutsAt bytes head rest := by
  induction bytes generalizing head with
  | nil =>
    refine iff_of_false (by simp [splitHead?]) fun h => ?_
    have heq := h.eq_append
    simp [emptyLine] at heq
  | cons b bytes ih =>
    by_cases hstart : emptyLine <+: b :: bytes
    · obtain ⟨after, hafter⟩ := hstart
      rw [← hafter, splitHead?_emptyLine]
      constructor
      · intro h
        cases h
        exact ⟨rfl, fun _ _ _ => Nat.zero_le _⟩
      · intro h
        have hnil := List.eq_nil_of_length_eq_zero (Nat.le_zero.mp (h.first [] after rfl))
        have heq := h.eq_append
        rw [hnil, List.nil_append] at heq
        rw [hnil, List.append_cancel_left heq]
    · rw [splitHead?_cons hstart, Option.map_eq_some_iff]
      constructor
      · rintro ⟨⟨head', rest'⟩, hsplit, heq⟩
        cases heq
        exact (ih.mp hsplit).cons hstart
      · intro h
        obtain ⟨head', rfl, htail⟩ := h.tail hstart
        exact ⟨(head', rest), ih.mpr htail, rfl⟩

theorem splitHead?_eq_none_iff : splitHead? bytes = none ↔ ¬emptyLine <:+: bytes := by
  induction bytes with
  | nil => simp [splitHead?, emptyLine]
  | cons b bytes ih =>
    rw [List.infix_cons_iff]
    by_cases hstart : emptyLine <+: b :: bytes
    · obtain ⟨after, hafter⟩ := hstart
      rw [← hafter, splitHead?_emptyLine]
      simp
    · rw [splitHead?_cons hstart, Option.map_eq_none_iff, ih]
      simp [hstart]

/-- An empty line that ends within the first bytes is one of those bytes alone. -/
theorem exists_of_append_eq (h : bytes ++ more = head ++ (emptyLine ++ rest))
    (hlength : head.length + emptyLine.length ≤ bytes.length) :
    ∃ start, bytes = head ++ (emptyLine ++ start) ∧ rest = start ++ more := by
  rw [← List.append_assoc, List.append_eq_append_iff] at h
  obtain ⟨gap, hgap, hmore⟩ | ⟨start, hbytes, hrest⟩ := h
  · have hnil : gap = [] := by
      have hcount := congrArg List.length hgap
      rw [List.length_append, List.length_append] at hcount
      exact List.eq_nil_of_length_eq_zero (by omega)
    rw [hnil, List.append_nil] at hgap
    rw [hnil, List.nil_append] at hmore
    exact ⟨[], by rw [← hgap, List.append_nil], hmore.symm⟩
  · exact ⟨start, by rw [hbytes, List.append_assoc], hrest⟩

/-- Bytes that arrive later do not move the end of the head. -/
theorem CutsAt.append (h : CutsAt bytes head start) (more : Bytes) :
    CutsAt (bytes ++ more) head (start ++ more) := by
  refine ⟨by rw [h.eq_append, List.append_assoc, List.append_assoc], fun other after hother => ?_⟩
  refine Nat.le_of_not_lt fun hshort => ?_
  have hcount := congrArg List.length h.eq_append
  rw [List.length_append, List.length_append] at hcount
  obtain ⟨early, hearly, -⟩ := exists_of_append_eq hother (by omega)
  exact Nat.not_lt_of_le (h.first other early hearly) hshort

theorem CutsAt.unique {head' rest' : Bytes} (h : CutsAt bytes head rest)
    (h' : CutsAt bytes head' rest') : head = head' ∧ rest = rest' := by
  have heq := (splitHead?_eq_some_iff.mpr h).symm.trans (splitHead?_eq_some_iff.mpr h')
  exact Prod.mk.inj (Option.some.inj heq)

/-! ## The two loops -/

namespace Stream

variable {buffer : Bytes} {pieces : List Bytes}

/-- The head is read up to the first empty line of all the bytes, and nothing behind it is lost. -/
theorem readHead_of_cutsAt (stalls : Bool) (hcut : CutsAt (buffer ++ pieces.flatten) head rest)
    (hlength : head.length + emptyLine.length ≤ maxHeadLength) :
    ∃ start left, readHead stalls buffer pieces = (.ok (head, start), left) ∧
      rest = start ++ left.flatten := by
  -- The buffer with the pieces to come is the same at every turn, and so is its first empty line.
  induction pieces generalizing buffer with
  | nil =>
    rw [List.flatten_nil, List.append_nil] at hcut
    refine ⟨rest, [], ?_, by simp⟩
    rw [readHead, splitHead?_eq_some_iff.mpr hcut]
  | cons piece pieces ih =>
    rw [readHead]
    cases hsplit : splitHead? buffer with
    | some parts =>
      obtain ⟨head', start⟩ := parts
      have hearly := (splitHead?_eq_some_iff.mp hsplit).append (piece :: pieces).flatten
      obtain ⟨rfl, rfl⟩ := hcut.unique hearly
      exact ⟨start, piece :: pieces, rfl, rfl⟩
    | none =>
      have hbound : ¬maxHeadLength < buffer.length := by
        intro hlong
        obtain ⟨start, hbuffer, -⟩ := exists_of_append_eq hcut.eq_append (by omega)
        exact splitHead?_eq_none_iff.mp hsplit ⟨head, start, by rw [hbuffer, List.append_assoc]⟩
      rw [List.flatten_cons, ← List.append_assoc] at hcut
      simp only [if_neg hbound]
      exact ih hcut

/-- The answer to bytes without an empty line. -/
def unfinished (stalls : Bool) (bytes : Bytes) : Refusal :=
  if maxHeadLength < bytes.length then .headersTooLarge else ended stalls .incompleteRequest

/-- Where there is no empty line, the search ends within the bound and one piece. -/
theorem readHead_of_not_infix (stalls : Bool)
    (hnone : ¬emptyLine <:+: (buffer ++ pieces.flatten).take (maxHeadLength + pieceLength))
    (hbuffer : buffer.length ≤ maxHeadLength + pieceLength)
    (hpieces : ∀ piece ∈ pieces, piece.length ≤ pieceLength) :
    ∃ read left, pieces = read ++ left ∧
      (buffer ++ read.flatten).length ≤ maxHeadLength + pieceLength ∧
      readHead stalls buffer pieces =
        (.error (unfinished stalls (buffer ++ pieces.flatten)), left) := by
  induction pieces generalizing buffer with
  | nil =>
    rw [List.flatten_nil, List.append_nil] at hnone ⊢
    rw [List.take_of_length_le hbuffer] at hnone
    refine ⟨[], [], rfl, by simpa using hbuffer, ?_⟩
    rw [readHead, splitHead?_eq_none_iff.mpr hnone, unfinished]
    by_cases hlong : maxHeadLength < buffer.length
    · simp only [if_pos hlong]
    · simp only [if_neg hlong]
  | cons piece pieces ih =>
    have hsplit : splitHead? buffer = none := by
      rw [splitHead?_eq_none_iff]
      rw [List.take_append, List.take_of_length_le hbuffer] at hnone
      exact fun hoccurs => hnone (hoccurs.trans (List.prefix_append _ _).isInfix)
    obtain ⟨hpiece, hpieces⟩ := List.forall_mem_cons.mp hpieces
    rw [readHead, hsplit]
    by_cases hlong : maxHeadLength < buffer.length
    · -- What has been read is too long already, so all the bytes are.
      have htotal : maxHeadLength < (buffer ++ (piece :: pieces).flatten).length := by
        rw [List.length_append]
        omega
      refine ⟨[], piece :: pieces, rfl, by simpa using hbuffer, ?_⟩
      rw [unfinished, if_pos htotal]
      exact if_pos hlong
    · have hnext : (buffer ++ piece).length ≤ maxHeadLength + pieceLength := by
        rw [List.length_append]
        omega
      rw [List.flatten_cons, ← List.append_assoc] at hnone ⊢
      obtain ⟨read, left, rfl, hread, heq⟩ := ih hnone hnext hpieces
      refine ⟨piece :: read, left, rfl, ?_, ?_⟩
      · rwa [List.flatten_cons, ← List.append_assoc]
      · exact (if_neg hlong).trans heq

/-- The body is the bytes behind the head, as many as were asked for. -/
theorem readBody_eq (stalls : Bool) (length : Nat) (body : Bytes) (pieces : List Bytes) :
    (readBody stalls length body pieces).1 =
      if (body ++ pieces.flatten).length < length then .error (ended stalls .incompleteBody)
      else .ok ((body ++ pieces.flatten).take length) := by
  induction pieces generalizing body with
  | nil =>
    rw [readBody, List.flatten_nil, List.append_nil]
    by_cases hlength : length ≤ body.length
    · rw [if_pos hlength, if_neg (Nat.not_lt_of_le hlength)]
    · rw [if_neg hlength, if_pos (Nat.lt_of_not_le hlength)]
  | cons piece pieces ih =>
    rw [readBody]
    by_cases hlength : length ≤ body.length
    · have htotal : ¬(body ++ (piece :: pieces).flatten).length < length := by
        rw [List.length_append]
        omega
      rw [if_pos hlength, if_neg htotal, List.take_append_of_le_length hlength]
    · rw [if_neg hlength, List.flatten_cons, ← List.append_assoc]
      exact ih (body ++ piece)

/-! ## Together -/

/-- The pieces are such as one read delivers: something, and no more than fits. -/
def Pieced (s : Stream) : Prop :=
  ∀ piece ∈ s.pieces, piece ≠ [] ∧ piece.length ≤ pieceLength

instance (s : Stream) : Decidable s.Pieced :=
  inferInstanceAs (Decidable (∀ piece ∈ s.pieces, piece ≠ [] ∧ piece.length ≤ pieceLength))

/-- What is made of a head and of all the bytes behind it. -/
def outcome (head rest : Bytes) : Except Response Request :=
  match Head.parse? head with
  | none => .error (.text 400 "Malformed request")
  | some parsed =>
    if maxBodyLength < parsed.contentLength then .error (.text 413 "Body too large")
    else if rest.length < parsed.contentLength then .error (.text 400 "Incomplete body")
    else
      .ok
        { method := parsed.method, path := parsed.path, query := parsed.query
          body := rest.take parsed.contentLength }

theorem request_of_cutsAt {s : Stream} (hended : s.stalls = false)
    (hcut : CutsAt s.pieces.flatten head rest)
    (hlength : head.length + emptyLine.length ≤ maxHeadLength) :
    s.request.1.mapError Refusal.response = outcome head rest := by
  rw [← List.nil_append s.pieces.flatten] at hcut
  obtain ⟨start, left, hread, hrest⟩ := readHead_of_cutsAt s.stalls hcut hlength
  cases hparse : Head.parse? head with
  | none =>
    simp only [request, hread, outcome, hparse]
    rfl
  | some parsed =>
    simp only [request, hread, outcome, hparse]
    by_cases hlarge : maxBodyLength < parsed.contentLength
    · rw [if_pos hlarge, if_pos hlarge]
      rfl
    · have hbody := readBody_eq s.stalls parsed.contentLength start left
      rw [← hrest, hended] at hbody
      rw [if_neg hlarge, if_neg hlarge, hended]
      generalize readBody false parsed.contentLength start left = result at hbody
      obtain ⟨body, remaining⟩ := result
      dsimp only at hbody
      by_cases hshort : rest.length < parsed.contentLength
      · rw [if_pos hshort] at hbody ⊢
        subst hbody
        rfl
      · rw [if_neg hshort] at hbody ⊢
        subst hbody
        rfl

/-- Where the first empty line ends within the bound on heads, the answer depends on the bytes
alone, and of those behind it the body takes as many as were asked for. Where there is no empty line
in reach, the answer is a refusal, and no more is read than that. -/
theorem request_of_pieces (s : Stream) (hpieced : s.Pieced) (hended : s.stalls = false) :
    (∀ head rest, CutsAt s.pieces.flatten head rest →
      head.length + emptyLine.length ≤ maxHeadLength →
      s.request.1.mapError Refusal.response = outcome head rest) ∧
    (¬emptyLine <:+: s.pieces.flatten.take (maxHeadLength + pieceLength) →
      s.request.1.mapError Refusal.response =
        .error (if maxHeadLength < s.pieces.flatten.length then .text 413 "Headers too large"
          else .text 400 "Incomplete request") ∧
      ∃ read, s.pieces = read ++ s.request.2 ∧
        read.flatten.length ≤ maxHeadLength + pieceLength) := by
  refine ⟨fun head rest hcut hlength => request_of_cutsAt hended hcut hlength, fun hnone => ?_⟩
  rw [← List.nil_append s.pieces.flatten] at hnone
  obtain ⟨read, left, hpieces, hlength, hread⟩ :=
    readHead_of_not_infix s.stalls hnone (Nat.zero_le _)
      fun piece hpiece => (hpieced piece hpiece).2
  have hrequest : s.request = (.error (unfinished s.stalls s.pieces.flatten), left) := by
    rw [request, hread]
    rfl
  refine ⟨?_, read, ?_, hlength⟩
  · rw [hrequest, unfinished, hended]
    by_cases hlong : maxHeadLength < s.pieces.flatten.length
    · simp only [if_pos hlong]
      rfl
    · simp only [if_neg hlong]
      rfl
  · rw [hrequest, hpieces]

open Text.Utf8 (encode)

/-- A request of which the empty line and the body are cut in the middle, with bytes to spare. -/
def dribble : Stream where
  pieces := [encode "post /push/?all HTTP/1.1\r\nContent-Length: 2\r", encode "\n\r",
    encode "\na", encode "bcd"]

/-- A connection on which a single byte arrives. -/
def murmur : Stream where
  pieces := [encode "G"]

theorem request_of_pieces_dribble :
    dribble.Pieced ∧ murmur.Pieced ∧
      dribble.request.1.mapError Refusal.response =
        .ok { method := "POST", path := "/push", query := "all", body := encode "ab" } ∧
      murmur.request.1.mapError Refusal.response = .error (.text 400 "Incomplete request") := by
  have hdribble : dribble.Pieced := by decide +kernel
  have hmurmur : murmur.Pieced := by decide +kernel
  have hcut : CutsAt dribble.pieces.flatten
      (encode "post /push/?all HTTP/1.1\r\nContent-Length: 2") (encode "abcd") :=
    splitHead?_eq_some_iff.mp (by decide +kernel)
  have hnone : ¬emptyLine <:+: murmur.pieces.flatten.take (maxHeadLength + pieceLength) :=
    splitHead?_eq_none_iff.mp (by decide +kernel)
  have hread := (request_of_pieces dribble hdribble rfl).1 _ _ hcut (by decide +kernel)
  have hlost := ((request_of_pieces murmur hmurmur rfl).2 hnone).1
  have hparse : Head.parse? (encode "post /push/?all HTTP/1.1\r\nContent-Length: 2") =
      some { method := "POST", path := "/push", query := "all", contentLength := 2 } := by
    decide +kernel
  refine ⟨hdribble, hmurmur, hread.trans ?_, hlost.trans ?_⟩
  · have hbody : (encode "abcd").take 2 = encode "ab" := by decide +kernel
    have hlength : ¬(encode "abcd").length < 2 := by decide +kernel
    simp only [outcome, hparse, if_neg hlength, hbody]
    rw [if_neg (by decide)]
  · rw [if_neg (by decide +kernel)]

end Stream

end SealedExchange.Http
