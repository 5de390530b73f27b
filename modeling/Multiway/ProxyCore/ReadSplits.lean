import Multiway.ProxyCore.Upgrade

/-!
# How a stream is cut into reads

`read_http_request_head` looks at its buffer between two reads only. For the
bytes of a stream the place that counts is the end of its first terminator,
`headEnd`: reading goes on while the buffer is shorter, and stops with an error
once it holds more than 65536 bytes and is still shorter (`Pending`). What the
last read brings along behind the terminator stays in the buffer, where
`is_raw_websocket_upgrade` decodes it with the rest (`isRaw_append`).
`sameBranch_iff` puts the two together.
-/

namespace Multiway.ProxyCore

open Multiway.Lib.Text

/-! ## Streams and their reads -/

/-- A stream cut into reads, none of them empty or longer than the buffer. -/
structure Reads (stream : List UInt8) (reads : List (List UInt8)) : Prop where
  bytes : reads.flatten = stream
  nonempty : ∀ chunk ∈ reads, chunk ≠ []
  short : ∀ chunk ∈ reads, chunk.length ≤ 4096

/-- What `HttpCoreService::call` does first: give up, or take one of the two
paths. -/
def branch (reads : List (List UInt8)) : Option Bool :=
  match readHttpRequestHead reads with
  | .error _ => none
  | .ok (rawHead, _) => some (isRawWebsocketUpgrade rawHead)

/-- Where the first terminator ends. -/
def headEnd (stream : List UInt8) : Option ℕ :=
  (List.range (stream.length + 1)).find? fun n => terminator <:+ stream.take n

/-- A terminator among the first bytes ends somewhere. -/
theorem infix_take_iff {stream : List UInt8} {n : ℕ} (hn : n ≤ stream.length) :
    terminator <:+: stream.take n ↔ ∃ m ≤ n, terminator <:+ stream.take m := by
  constructor
  · intro hin
    obtain ⟨front, back, heq⟩ := hin
    have hlen := congrArg List.length heq
    rw [List.length_take_of_le hn, List.length_append, List.length_append] at hlen
    refine ⟨front.length + terminator.length, by omega, front, ?_⟩
    have htake := congrArg (List.take (front.length + terminator.length)) heq
    rw [List.take_take, Nat.min_eq_left (by omega), ← List.length_append,
      List.take_left' rfl] at htake
    rw [htake, List.length_append]
  · intro hends
    obtain ⟨m, hm, hsuffix⟩ := hends
    exact hsuffix.isInfix.trans (List.take_prefix_take_left hm).isInfix

theorem headEnd_eq_some {stream : List UInt8} {t : ℕ} (h : headEnd stream = some t) :
    terminator <:+ stream.take t ∧ t ≤ stream.length ∧
      ∀ n < t, ¬ terminator <:+ stream.take n := by
  obtain ⟨ht, hmem, hfirst⟩ := List.find?_range_eq_some.mp h
  refine ⟨of_decide_eq_true ht, Nat.le_of_lt_succ (List.mem_range.mp hmem), ?_⟩
  intro n hn
  simpa using hfirst n hn

/-- The terminator has been read once the buffer reaches to its end. -/
theorem infix_take_iff_le {stream : List UInt8} {t : ℕ} (h : headEnd stream = some t) {n : ℕ}
    (hn : n ≤ stream.length) : terminator <:+: stream.take n ↔ t ≤ n := by
  obtain ⟨ht, -, hfirst⟩ := headEnd_eq_some h
  rw [infix_take_iff hn]
  constructor
  · intro hends
    obtain ⟨m, hm, hsuffix⟩ := hends
    by_contra hlt
    exact hfirst m (by omega) hsuffix
  · intro hle
    exact ⟨t, hle, ht⟩

/-- Of a buffer that starts the stream its length says whether the terminator
is in it. -/
theorem infix_iff_le {stream buf : List UInt8} {t : ℕ} (h : headEnd stream = some t)
    (hbuf : buf <+: stream) : terminator <:+: buf ↔ t ≤ buf.length := by
  rw [← infix_take_iff_le h hbuf.length_le, ← List.prefix_iff_eq_take.mp hbuf]

theorem not_infix_of_headEnd {stream : List UInt8} (h : headEnd stream = none) :
    ¬ terminator <:+: stream := by
  rw [headEnd, List.find?_eq_none] at h
  intro hin
  rw [← List.take_length (l := stream), infix_take_iff le_rfl] at hin
  obtain ⟨m, hm, hsuffix⟩ := hin
  exact h m (List.mem_range.mpr (Nat.lt_succ_of_le hm)) (decide_eq_true hsuffix)

/-! ## Reading -/

/-- A buffer that is read on with. -/
def Pending (buf : List UInt8) : Prop := ¬ terminator <:+: buf ∧ buf.length ≤ 65536

theorem pending_nil : Pending [] := ⟨by decide, by decide⟩

/-- A list is cut at its first element or behind it. -/
theorem exists_cut_cons {α : Type} {a : α} {l rest : List α} {P : List α → α → Prop} :
    (∃ before last, a :: l = before ++ last :: rest ∧ P before last) ↔
      l = rest ∧ P [] a ∨ ∃ before last, l = before ++ last :: rest ∧ P (a :: before) last := by
  constructor
  · intro hcons
    obtain ⟨before, last, hcut, h⟩ := hcons
    rcases before with _ | ⟨first, before⟩
    · obtain ⟨rfl, rfl⟩ := List.cons.inj hcut
      exact .inl ⟨rfl, h⟩
    · obtain ⟨rfl, rfl⟩ := List.cons.inj hcut
      exact .inr ⟨before, last, rfl, h⟩
  · rintro (⟨rfl, h⟩ | ⟨before, last, rfl, h⟩)
    · exact ⟨[], a, rfl, h⟩
    · exact ⟨a :: before, last, rfl, h⟩

/-- What is read on with came from a buffer that was read on with. -/
theorem Pending.of_append {buf more : List UInt8} (h : Pending (buf ++ more)) : Pending buf := by
  refine ⟨fun hin => h.1 (hin.trans (List.prefix_append buf more).isInfix), ?_⟩
  have hlen := h.2
  rw [List.length_append] at hlen
  omega

/-- The reads before the last one leave the buffer pending. -/
theorem readMore_eq_ok {reads : List (List UInt8)} (hne : ∀ chunk ∈ reads, chunk ≠ [])
    {buf : List UInt8} (hbuf : Pending buf) (head : List UInt8) (rest : List (List UInt8)) :
    readMore buf reads = .ok (head, rest) ↔
      ∃ before chunk, reads = before ++ chunk :: rest ∧ head = buf ++ before.flatten ++ chunk ∧
        terminator <:+: head ∧ Pending (buf ++ before.flatten) := by
  induction reads generalizing buf with
  | nil =>
    refine iff_of_false nofun ?_
    intro hread
    obtain ⟨before, chunk, h, -⟩ := hread
    simp at h
  | cons chunk reads ih =>
    obtain ⟨hchunk, hreads⟩ := List.forall_mem_cons.mp hne
    rw [readMore, if_neg (by simpa using hchunk), exists_cut_cons]
    simp only [List.flatten_nil, List.append_nil, List.flatten_cons, ← List.append_assoc]
    by_cases hterm : terminator <:+: buf ++ chunk
    · -- nothing is pending behind the terminator
      simp only [hterm, if_true]
      constructor
      · intro h
        obtain ⟨rfl, rfl⟩ := Prod.mk.inj (Except.ok.inj h)
        exact .inl ⟨rfl, rfl, hterm, hbuf⟩
      · rintro (⟨rfl, rfl, -⟩ | ⟨before, last, -, -, -, hpending⟩)
        · rfl
        · exact absurd hterm hpending.of_append.1
    · have hfirst :
          ¬(reads = rest ∧ head = buf ++ chunk ∧ terminator <:+: head ∧ Pending buf) := by
        intro hfirst
        obtain ⟨-, rfl, hhead, -⟩ := hfirst
        exact hterm hhead
      simp only [hterm, if_false, hfirst, false_or]
      by_cases hlong : 65536 < (buf ++ chunk).length
      · rw [if_pos hlong]
        refine iff_of_false nofun ?_
        intro hread
        obtain ⟨before, last, -, -, -, hpending⟩ := hread
        exact absurd hpending.of_append.2 (by omega)
      · rw [if_neg hlong, ih hreads ⟨hterm, by omega⟩]

/-- A stream whose terminator ends in time is read up to it. -/
theorem readMore_ok {reads : List (List UInt8)} (hne : ∀ chunk ∈ reads, chunk ≠ [])
    {buf : List UInt8} {t : ℕ} (h : headEnd (buf ++ reads.flatten) = some t) (ht : t ≤ 65537)
    (hbuf : Pending buf) : ∃ head rest, readMore buf reads = .ok (head, rest) := by
  induction reads generalizing buf with
  | nil =>
    rw [List.flatten_nil, List.append_nil] at h
    obtain ⟨hsuffix, -, -⟩ := headEnd_eq_some h
    exact absurd (hsuffix.isInfix.trans (List.take_prefix t buf).isInfix) hbuf.1
  | cons chunk reads ih =>
    obtain ⟨hchunk, hreads⟩ := List.forall_mem_cons.mp hne
    rw [readMore, if_neg (by simpa using hchunk)]
    by_cases hterm : terminator <:+: buf ++ chunk
    · exact ⟨_, _, if_pos hterm⟩
    · rw [List.flatten_cons, ← List.append_assoc] at h
      have hlt : (buf ++ chunk).length < t :=
        not_le.mp fun hle => hterm ((infix_iff_le h (List.prefix_append _ _)).mpr hle)
      have hshort : ¬ 65536 < (buf ++ chunk).length := by omega
      simp only [hterm, if_false, if_neg hshort]
      exact ih hreads h ⟨hterm, by omega⟩

theorem branch_eq_some {reads : List (List UInt8)} (hne : ∀ chunk ∈ reads, chunk ≠ [])
    (verdict : Bool) :
    branch reads = some verdict ↔
      ∃ before chunk rest, reads = before ++ chunk :: rest ∧
        terminator <:+: before.flatten ++ chunk ∧ Pending before.flatten ∧
        isRawWebsocketUpgrade (before.flatten ++ chunk) = verdict := by
  have hread := readMore_eq_ok hne pending_nil
  simp only [List.nil_append] at hread
  unfold branch readHttpRequestHead
  constructor
  · intro h
    cases hmore : readMore [] reads with
    | error e => simp [hmore] at h
    | ok result =>
      obtain ⟨head, rest⟩ := result
      obtain ⟨before, chunk, hsplit, rfl, hterm, hpending⟩ := (hread head rest).mp hmore
      exact ⟨before, chunk, rest, hsplit, hterm, hpending, by simpa [hmore] using h⟩
  · intro hstops
    obtain ⟨before, chunk, rest, hsplit, hterm, hpending, rfl⟩ := hstops
    rw [(hread _ rest).mpr ⟨before, chunk, hsplit, rfl, hterm, hpending⟩]

/-! ## The verdict -/

/-- What is behind an empty line is not looked at. -/
theorem headerLines_terminator (front back : List Char) :
    headerLines (front ++ "\r\n\r\n".toList ++ back) =
      headerLines (front ++ "\r\n\r\n".toList) := by
  have hlines : ∀ back, lines (front ++ "\r\n\r\n".toList ++ back) =
      lines (front ++ ['\r'] ++ ['\n']) ++ [] :: lines back := by
    intro back
    have hcut : front ++ "\r\n\r\n".toList ++ back =
        (front ++ ['\r']) ++ '\n' :: (['\r'] ++ '\n' :: back) := by simp
    have hempty : lines (['\r'] ++ '\n' :: back) = [] :: lines back := lines_cons (by decide) back
    rw [hcut, lines_append, hempty]
  have hsome : lines (front ++ ['\r'] ++ ['\n']) ≠ [] := by
    rw [lines_newline]
    simp [List.splitOn_ne_nil]
  obtain ⟨first, others, hfirst⟩ := List.exists_cons_of_ne_nil hsome
  have hbare := hlines []
  rw [List.append_nil] at hbare
  rw [headerLines, headerLines, hlines, hbare, hfirst]
  simp only [List.cons_append, List.drop_one, List.tail_cons, List.takeWhile_append]
  simp

/-- Bytes behind the terminator count only as bytes that decode or do not. -/
theorem isRaw_append (front back : List UInt8) :
    isRawWebsocketUpgrade (front ++ terminator ++ back) =
      (isRawWebsocketUpgrade (front ++ terminator) && (fromUtf8 back).isSome) := by
  -- a valid text is cut behind the last newline of the terminator
  have hcut : ∀ text rest, encodeUtf8 text = front ++ terminator ++ rest →
      ∃ start, encodeUtf8 (start ++ "\r\n\r\n".toList) = front ++ terminator := by
    intro text rest htext
    have hcr : front ++ terminator ++ rest =
        front ++ UInt8.ofNat ('\r').toNat :: ([10, 13, 10] ++ rest) := by simp [terminator]
    obtain ⟨start, -, -, hstart, -⟩ := encodeUtf8_eq_append_cons (by decide) (htext.trans hcr)
    refine ⟨start, ?_⟩
    rw [encodeUtf8_append, hstart]
    rfl
  by_cases hvalid : ∃ start, encodeUtf8 (start ++ "\r\n\r\n".toList) = front ++ terminator
  · obtain ⟨start, hstart⟩ := hvalid
    rw [isRawWebsocketUpgrade, isRawWebsocketUpgrade, ← hstart, fromUtf8_append,
      fromUtf8_encodeUtf8]
    cases fromUtf8 back with
    | none => simp
    | some rest =>
      rw [Option.map_some, Option.any_some, Option.any_some, isUpgradeText, headerFields,
        headerLines_terminator]
      simp [isUpgradeText, headerFields]
  · have hnone : ∀ rest, fromUtf8 (front ++ terminator ++ rest) = none := by
      intro rest
      rw [Option.eq_none_iff_forall_ne_some]
      intro text htext
      exact hvalid (hcut text rest (fromUtf8_eq_some.mp htext))
    have hbare := hnone []
    rw [List.append_nil] at hbare
    rw [isRawWebsocketUpgrade, isRawWebsocketUpgrade, hnone, hbare]
    rfl

/-- The verdict on the bytes read so far, in terms of the head alone. -/
theorem isRaw_take {stream : List UInt8} {t : ℕ} (h : headEnd stream = some t) (n : ℕ) :
    isRawWebsocketUpgrade (stream.take (t + n)) =
      (isRawWebsocketUpgrade (stream.take t) && (fromUtf8 ((stream.drop t).take n)).isSome) := by
  obtain ⟨⟨front, hfront⟩, -, -⟩ := headEnd_eq_some h
  rw [List.take_add, ← hfront, isRaw_append]

/-! ## When the reads do not matter -/

/-- The terminator ends before the limit or out of its reach, and behind the
head of an upgrade come only ASCII bytes for as long as one read is. -/
structure SplitsAlike (stream : List UInt8) : Prop where
  limit : ∀ t, headEnd stream = some t → t ≤ 65537 ∨ 69632 < t
  ascii : ∀ t, headEnd stream = some t → t ≤ 65537 →
    isRawWebsocketUpgrade (stream.take t) = true →
      ∀ b ∈ (stream.drop t).take 4095, b < 128

theorem branch_none_of_headEnd_none {stream : List UInt8} (h : headEnd stream = none)
    {reads : List (List UInt8)} (hreads : reads.flatten = stream)
    (hne : ∀ chunk ∈ reads, chunk ≠ []) : branch reads = none := by
  rw [Option.eq_none_iff_forall_ne_some]
  intro verdict hsome
  obtain ⟨before, chunk, rest, rfl, hterm, -, -⟩ := (branch_eq_some hne verdict).mp hsome
  refine not_infix_of_headEnd h (hterm.trans ?_)
  refine ⟨[], rest.flatten, ?_⟩
  rw [← hreads]
  simp

/-- Past the limit and one more read there is no way to the terminator. -/
theorem branch_none_of_far {stream : List UInt8} {t k : ℕ} (h : headEnd stream = some t)
    (hfar : 65536 + k < t) {reads : List (List UInt8)} (hreads : reads.flatten = stream)
    (hne : ∀ chunk ∈ reads, chunk ≠ []) (hshort : ∀ chunk ∈ reads, chunk.length ≤ k) :
    branch reads = none := by
  rw [Option.eq_none_iff_forall_ne_some]
  intro verdict hsome
  obtain ⟨before, chunk, rest, rfl, hterm, hpending, -⟩ := (branch_eq_some hne verdict).mp hsome
  have hchunk := hshort chunk (by simp)
  have hbuf : before.flatten ++ chunk <+: stream := by
    rw [← hreads]
    exact ⟨rest.flatten, by simp⟩
  have hle := (infix_iff_le h hbuf).mp hterm
  have := hpending.2
  rw [List.length_append] at hle
  omega

/-- The bytes one by one, but for those from `q` to `p`. -/
def cut (stream : List UInt8) (q p : ℕ) : List (List UInt8) :=
  (stream.take q).map (fun b => [b]) ++
    (stream.take p).drop q :: (stream.drop p).map (fun b => [b])

theorem flatten_singles (bytes : List UInt8) : (bytes.map fun b => [b]).flatten = bytes := by
  rw [← List.flatMap_def, List.flatMap_singleton']

theorem reads_singles (stream : List UInt8) : Reads stream (stream.map fun b => [b]) where
  bytes := flatten_singles stream
  nonempty := by simp
  short := by simp

theorem take_append_drop_take (stream : List UInt8) {q p : ℕ} (h : q ≤ p) :
    stream.take q ++ (stream.take p).drop q = stream.take p := by
  have hmin : (stream.take p).take q = stream.take q := by rw [List.take_take, Nat.min_eq_left h]
  rw [← hmin, List.take_append_drop]

/-- Every read holds one byte or those from `q` to `p`. -/
theorem mem_cut {stream chunk : List UInt8} {q p : ℕ} (h : chunk ∈ cut stream q p) :
    (∃ b, chunk = [b]) ∨ chunk = (stream.take p).drop q := by
  rcases List.mem_append.mp h with h | h
  · obtain ⟨b, -, rfl⟩ := List.mem_map.mp h
    exact .inl ⟨b, rfl⟩
  · rcases List.mem_cons.mp h with rfl | h
    · exact .inr rfl
    · obtain ⟨b, -, rfl⟩ := List.mem_map.mp h
      exact .inl ⟨b, rfl⟩

theorem reads_cut {stream : List UInt8} {q p : ℕ} (hq : q < p) (hp : p ≤ stream.length)
    (hread : p - q ≤ 4096) : Reads stream (cut stream q p) where
  bytes := by
    rw [cut, List.flatten_append, List.flatten_cons, flatten_singles, flatten_singles,
      ← List.append_assoc, take_append_drop_take stream hq.le, List.take_append_drop]
  nonempty := by
    intro chunk hmem
    rcases mem_cut hmem with ⟨b, rfl⟩ | rfl
    · exact List.cons_ne_nil b []
    · refine List.ne_nil_of_length_pos ?_
      rw [List.length_drop, List.length_take_of_le hp]
      omega
  short := by
    intro chunk hmem
    rcases mem_cut hmem with ⟨b, rfl⟩ | rfl
    · exact Nat.one_le_ofNat
    · rw [List.length_drop, List.length_take_of_le hp]
      exact hread

/-- Cut so, the head is read with everything up to `p`. -/
theorem branch_cut {stream : List UInt8} {t q p : ℕ} (h : headEnd stream = some t) (hq : q < t)
    (hlimit : q ≤ 65536) (ht : t ≤ p) (hp : p ≤ stream.length) (hread : p - q ≤ 4096) :
    branch (cut stream q p) = some (isRawWebsocketUpgrade (stream.take p)) := by
  have hreads := reads_cut (hq.trans_le ht) hp hread
  have hqlen : q ≤ stream.length := by omega
  have htake := take_append_drop_take stream (hq.le.trans ht)
  refine (branch_eq_some hreads.nonempty _).mpr ⟨_, _, _, rfl, ?_, ?_, ?_⟩
  · rw [flatten_singles, htake, infix_take_iff_le h hp]
    exact ht
  · rw [flatten_singles]
    refine ⟨fun hin => ?_, ?_⟩
    · have := (infix_take_iff_le h hqlen).mp hin
      omega
    · rw [List.length_take_of_le hqlen]
      exact hlimit
  · rw [flatten_singles, htake]

/-- In time, the head is read, with no more behind it than one read holds. -/
theorem branch_of_near {stream : List UInt8} {t : ℕ} (h : headEnd stream = some t)
    (ht : t ≤ 65537) {reads : List (List UInt8)} (hreads : Reads stream reads) :
    ∃ n ≤ 4095, branch reads = some (isRawWebsocketUpgrade (stream.take (t + n))) := by
  have hmore : headEnd ([] ++ reads.flatten) = some t := by rw [List.nil_append, hreads.bytes, h]
  obtain ⟨head, rest, hok⟩ := readMore_ok hreads.nonempty hmore ht pending_nil
  obtain ⟨before, chunk, hsplit, hhead, hterm, hpending⟩ :=
    (readMore_eq_ok hreads.nonempty pending_nil head rest).mp hok
  rw [List.nil_append] at hhead hpending
  have hstream : stream = head ++ rest.flatten := by
    rw [← hreads.bytes, hsplit, hhead]
    simp
  have hprefix : head <+: stream := ⟨rest.flatten, hstream.symm⟩
  have hchunk := hreads.short chunk (by simp [hsplit])
  have hle : t ≤ head.length := (infix_iff_le h hprefix).mp hterm
  have hbefore : before.flatten.length < t := by
    have hpre : before.flatten <+: stream :=
      (List.prefix_append before.flatten chunk).trans (hhead ▸ hprefix)
    exact not_le.mp fun hge => hpending.1 ((infix_iff_le h hpre).mpr hge)
  have hlen : head.length = before.flatten.length + chunk.length := by
    rw [hhead, List.length_append]
  refine ⟨head.length - t, by omega, ?_⟩
  have htake : stream.take (t + (head.length - t)) = head := by
    rw [Nat.add_sub_cancel' hle, hstream, List.take_left' rfl]
  unfold branch readHttpRequestHead
  rw [hok, htake]

/-- One byte after the other gives up where one long read makes it. -/
theorem limit_of_sameBranch {stream : List UInt8}
    (hsame : ∀ reads₁ reads₂, Reads stream reads₁ → Reads stream reads₂ →
      branch reads₁ = branch reads₂) {t : ℕ} (h : headEnd stream = some t) :
    t ≤ 65537 ∨ 69632 < t := by
  by_contra hbetween
  have hle := (headEnd_eq_some h).2.1
  -- one byte at a time the buffer is over the limit before the terminator ends
  have hslow := branch_none_of_far (k := 1) h (by omega) (flatten_singles stream) (by simp)
    (by simp)
  have hfast := branch_cut h (q := 65536) (by omega) le_rfl le_rfl hle (by omega)
  have heq := hsame _ _ (reads_singles stream) (reads_cut (q := 65536) (by omega) hle (by omega))
  rw [hslow, hfast] at heq
  cases heq

/-- A read that ends behind the head is set against one that ends with it. -/
theorem isSome_of_sameBranch {stream : List UInt8}
    (hsame : ∀ reads₁ reads₂, Reads stream reads₁ → Reads stream reads₂ →
      branch reads₁ = branch reads₂) {t : ℕ} (h : headEnd stream = some t) (ht : t ≤ 65537)
    (hup : isRawWebsocketUpgrade (stream.take t) = true) {m : ℕ} (hm : m ≤ 4095)
    (hlen : t + m ≤ stream.length) : (fromUtf8 ((stream.drop t).take m)).isSome = true := by
  obtain ⟨hsuffix, hle, -⟩ := headEnd_eq_some h
  have hpos : 0 < t := by
    by_contra hzero
    obtain rfl : t = 0 := by omega
    simp [terminator] at hsuffix
  have hshort := branch_cut h (q := t - 1) (by omega) (by omega) le_rfl hle (by omega)
  have hlong := branch_cut h (q := t - 1) (by omega) (by omega) (Nat.le_add_right t m) hlen
    (by omega)
  have heq := hsame _ _ (reads_cut (q := t - 1) (by omega) hle (by omega))
    (reads_cut (q := t - 1) (by omega) hlen (by omega))
  rw [hshort, hlong, hup, isRaw_take h, hup, Bool.true_and] at heq
  exact (Option.some.inj heq).symm

theorem splitsAlike_of_sameBranch {stream : List UInt8}
    (hsame : ∀ reads₁ reads₂, Reads stream reads₁ → Reads stream reads₂ →
      branch reads₁ = branch reads₂) : SplitsAlike stream where
  limit t h := limit_of_sameBranch hsame h
  ascii t h ht hup := by
    refine (forall_take_isSome_iff _).mp fun n => ?_
    rw [List.take_take]
    by_cases hlen : t + min n 4095 ≤ stream.length
    · exact isSome_of_sameBranch hsame h ht hup (Nat.min_le_right n 4095) hlen
    · -- the stream ends within the read
      have hdrop : (stream.drop t).take (min n 4095) =
          (stream.drop t).take (stream.length - t) := by
        rw [List.take_of_length_le (by rw [List.length_drop]; omega),
          List.take_of_length_le (by rw [List.length_drop])]
      have hle := (headEnd_eq_some h).2.1
      rw [hdrop]
      exact isSome_of_sameBranch hsame h ht hup (by omega) (by omega)

/-- The branch of a stream whose reads do not matter. -/
theorem SplitsAlike.branch_eq {stream : List UInt8} (h : SplitsAlike stream)
    {reads : List (List UInt8)} (hreads : Reads stream reads) :
    branch reads = ((headEnd stream).filter (· ≤ 65537)).map fun t =>
      isRawWebsocketUpgrade (stream.take t) := by
  cases hend : headEnd stream with
  | none => exact branch_none_of_headEnd_none hend hreads.bytes hreads.nonempty
  | some t =>
    rcases h.limit t hend with ht | ht
    · obtain ⟨n, hn, hbranch⟩ := branch_of_near hend ht hreads
      rw [hbranch, isRaw_take hend, Option.filter_some, if_pos (decide_eq_true ht),
        Option.map_some]
      cases hup : isRawWebsocketUpgrade (stream.take t) with
      | false => rfl
      | true =>
        have hsome := (forall_take_isSome_iff _).mpr (h.ascii t hend ht hup) n
        rw [List.take_take, Nat.min_eq_left hn] at hsome
        rw [hsome]
        rfl
    · rw [branch_none_of_far hend ht hreads.bytes hreads.nonempty hreads.short,
        Option.filter_some, if_neg (by simp; omega)]
      rfl

/-- **When the reads do not matter.** Every two ways of cutting a stream into
reads send it down the same branch exactly when its terminator does not end
where only a long last read reaches it, and what may be read along behind the
head of an upgrade is ASCII. -/
theorem sameBranch_iff (stream : List UInt8) :
    (∀ reads₁ reads₂, Reads stream reads₁ → Reads stream reads₂ →
      branch reads₁ = branch reads₂) ↔ SplitsAlike stream := by
  constructor
  · exact splitsAlike_of_sameBranch
  · intro h reads₁ reads₂ h₁ h₂
    rw [h.branch_eq h₁, h.branch_eq h₂]

/-! ## A frame behind the head -/

/-- The lines of an upgrade. -/
def upgradeLines : List Char :=
  ("GET /ws HTTP/1.1\r\nHost: example.com\r\nConnection: Upgrade\r\nUpgrade: websocket\r\n" ++
    "Sec-WebSocket-Version: 13\r\nSec-WebSocket-Key: dGhl").toList

def upgradeHead : List Char := upgradeLines ++ "\r\n\r\n".toList

theorem encodeUtf8_upgradeHead :
    encodeUtf8 upgradeHead = encodeUtf8 upgradeLines ++ terminator := by
  have hend : encodeUtf8 "\r\n\r\n".toList = terminator := by decide
  rw [upgradeHead, encodeUtf8_append, hend]

theorem terminator_upgradeHead : terminator <:+ encodeUtf8 upgradeHead :=
  ⟨encodeUtf8 upgradeLines, encodeUtf8_upgradeHead.symm⟩

theorem isRaw_upgradeHead : isRawWebsocketUpgrade (encodeUtf8 upgradeHead) = true := by
  have htext : isUpgradeText upgradeHead = true := by decide +kernel
  rw [isRawWebsocketUpgrade, fromUtf8_encodeUtf8, Option.any_some, htext]

theorem upgradeHead_ne_nil : encodeUtf8 upgradeHead ≠ [] :=
  terminator_upgradeHead.ne_nil (List.cons_ne_nil 13 _)

theorem length_upgradeHead : (encodeUtf8 upgradeHead).length < 4096 :=
  (length_encodeUtf8_le upgradeHead).trans_lt (by decide +kernel)

/-- The first byte of a binary frame that comes in one read with the head of the
upgrade hides it. -/
theorem frame_hides_upgrade :
    ¬ ∀ stream reads₁ reads₂, Reads stream reads₁ → Reads stream reads₂ →
      branch reads₁ = branch reads₂ := by
  intro h
  have hnone : fromUtf8 [0x82] = none := by
    rw [← Option.not_isSome_iff_eq_none, isSome_fromUtf8_singleton]
    decide
  have hlen := length_upgradeHead
  have hapart : Reads (encodeUtf8 upgradeHead ++ [0x82]) [encodeUtf8 upgradeHead, [0x82]] := by
    refine ⟨by simp, by simp [upgradeHead_ne_nil], ?_⟩
    simp only [List.forall_mem_cons, List.length_singleton]
    exact ⟨hlen.le, by omega, by simp⟩
  have htogether : Reads (encodeUtf8 upgradeHead ++ [0x82]) [encodeUtf8 upgradeHead ++ [0x82]] := by
    refine ⟨by simp, by simp, ?_⟩
    simp only [List.forall_mem_cons, List.length_append, List.length_singleton]
    exact ⟨by omega, by simp⟩
  have hseen : branch [encodeUtf8 upgradeHead, [0x82]] = some true := by
    refine (branch_eq_some hapart.nonempty true).mpr
      ⟨[], encodeUtf8 upgradeHead, [[0x82]], List.nil_append _, ?_, pending_nil, ?_⟩
    · rw [List.flatten_nil, List.nil_append]
      exact terminator_upgradeHead.isInfix
    · rw [List.flatten_nil, List.nil_append, isRaw_upgradeHead]
  have hhidden : branch [encodeUtf8 upgradeHead ++ [0x82]] = some false := by
    refine (branch_eq_some htogether.nonempty false).mpr
      ⟨[], encodeUtf8 upgradeHead ++ [0x82], [], List.nil_append _, ?_, pending_nil, ?_⟩
    · rw [List.flatten_nil, List.nil_append]
      exact terminator_upgradeHead.isInfix.trans (List.prefix_append _ _).isInfix
    · rw [List.flatten_nil, List.nil_append, isRawWebsocketUpgrade, fromUtf8_append, hnone]
      rfl
  have heq := h _ _ _ hapart htogether
  rw [hseen, hhidden] at heq
  cases heq

end Multiway.ProxyCore
