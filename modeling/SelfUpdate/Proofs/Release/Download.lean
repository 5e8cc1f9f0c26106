import SelfUpdate.Release.Fetch

/-!
# What a download delivers

The body of a response arrives in pieces, and is given up as soon as it passes the limit.
What has been gathered until then is within the limit.  So nothing but the bytes counts: a
body that passes the limit is too large even if it breaks off later, and it is delivered in
any other pieces just the same.

There are two exceptions.  The response that counts is the last one, after servers have sent
the client on.  And an announced size that is within the limit, but more than any buffer has
room for, brings the program down before anything is read.
-/

namespace SelfUpdate

open Http (Response Transport)

namespace Http

/-- What arrives of the body. -/
def Response.bytes (response : Response) : Bytes :=
  response.chunks.flatten

/-- The same response with its body in one piece. -/
def Response.joined (response : Response) : Response :=
  { response with chunks := [response.bytes] }

theorem Response.bytes_joined (response : Response) : response.joined.bytes = response.bytes :=
  List.append_nil response.bytes

/-- Servers that send all bodies in one piece, and else the same. -/
def Transport.joined {m : Type → Type} [Monad m] (transport : Transport m) : Transport m :=
  fun request => Option.map Response.joined <$> transport request

section Following

variable {m : Type → Type} [Monad m] [LawfulMonad m] (transport : Transport m)
  (userAgent : String)

/-- The pieces of a body do not send a client anywhere else. -/
theorem redirection_joined (address : Address) (response : Response) :
    redirection address response.joined = redirection address response :=
  rfl

variable {transport userAgent}

theorem proceed_joined {joined further : Address → m (Option Response)}
    (agree : ∀ address, joined address = Option.map Response.joined <$> further address)
    (address : Address) (reply : Option Response) :
    proceed joined address (reply.map Response.joined) =
      Option.map Response.joined <$> proceed further address reply := by
  cases reply with
  | none => simp [proceed]
  | some response =>
      rw [Option.map_some, proceed, proceed, redirection_joined]
      cases redirection address response with
      | absent => simp
      | impossible => simp
      | moved next => exact agree next

variable (transport userAgent)

theorem follow_joined (remaining : Nat) (address : Address) :
    follow transport.joined userAgent remaining address =
      Option.map Response.joined <$> follow transport userAgent remaining address := by
  induction remaining generalizing address with
  | zero =>
      -- Whoever is sent on once too often fails, with or without pieces.
      have nowhere (_ : Address) : (pure none : m (Option Response)) =
          Option.map Response.joined <$> pure none := by
        simp
      rw [follow, follow, Transport.joined, bind_map_left, map_bind]
      exact bind_congr (proceed_joined nowhere address)
  | succ remaining ih =>
      rw [follow, follow, Transport.joined, bind_map_left, map_bind]
      exact bind_congr (proceed_joined ih address)

theorem ask_joined (url : String) :
    ask transport.joined userAgent url =
      Option.map Response.joined <$> ask transport userAgent url := by
  unfold ask
  cases Address.ofString? url with
  | none => simp
  | some address => exact follow_joined transport userAgent maxRedirects address

end Following

end Http

section Gathering

variable {limit : Nat} {arrived : Bytes} {pieces : List Bytes}

/-- Pieces that stay within the limit are all gathered. -/
theorem gather_of_le (within : (arrived ++ pieces.flatten).length ≤ limit) :
    gather limit arrived pieces = some (arrived ++ pieces.flatten) := by
  induction pieces generalizing arrived with
  | nil => simp [gather]
  | cons piece pieces ih =>
      rw [List.flatten_cons, ← List.append_assoc] at within ⊢
      have front : arrived.length + piece.length ≤ limit := by
        simp only [List.length_append] at within
        omega
      rw [gather, if_neg (Nat.not_lt.mpr front), ih within]

/-- Pieces that pass the limit together are given up, if the limit was not passed before. -/
theorem gather_of_lt (within : arrived.length ≤ limit)
    (passes : limit < (arrived ++ pieces.flatten).length) :
    gather limit arrived pieces = none := by
  -- What has arrived never passes the limit, so a piece that does is still to come.
  induction pieces generalizing arrived with
  | nil =>
      rw [List.flatten_nil, List.append_nil] at passes
      omega
  | cons piece pieces ih =>
      rw [List.flatten_cons, ← List.append_assoc] at passes
      rw [gather]
      split
      · rfl
      · next front =>
          apply ih _ passes
          rw [List.length_append]
          omega

theorem gather_congr {others : List Bytes} (within : arrived.length ≤ limit)
    (same : pieces.flatten = others.flatten) :
    gather limit arrived pieces = gather limit arrived others := by
  by_cases fits : (arrived ++ pieces.flatten).length ≤ limit
  · rw [gather_of_le fits, same, gather_of_le (same ▸ fits)]
  · have passes := Nat.lt_of_not_le fits
    rw [gather_of_lt within passes, gather_of_lt within (same ▸ passes)]

end Gathering

/-- The announced size of a body or its true size is above a limit. -/
def Exceeds (limit : UInt64) (response : Response) : Prop :=
  (∃ size, response.contentLength = some size ∧ limit.toNat < size) ∨
    limit.toNat < response.bytes.length

/-- The announced size of a body is within a limit, but no buffer has room for it. -/
def Overfills (limit : UInt64) (response : Response) : Prop :=
  ∃ size, response.contentLength = some size ∧ maxBufferSize < size ∧ size ≤ limit.toNat

/-- What a response comes to by its status, its sizes and its end. -/
structure Yields (url : String) (limit : UInt64) (response : Response)
    (outcome : FetchOutcome) : Prop where
  status : response.status ≠ 200 → outcome = .failed (.status url response.status)
  tooLarge : response.status = 200 → Exceeds limit response →
    outcome = .failed (.tooLarge url limit)
  transport : response.status = 200 → ¬Exceeds limit response → response.isWhole = false →
    outcome = .failed (.transport url)
  delivered : response.status = 200 → ¬Exceeds limit response → response.isWhole = true →
    outcome = .fetched response.bytes

section Delivering

variable {url : String} {limit : UInt64} {response : Response}

theorem announced_any_iff {bound : Nat} :
    response.contentLength.any (bound < ·) = true ↔
      ∃ size, response.contentLength = some size ∧ bound < size := by
  simp [Option.any_eq_true]

theorem not_overfills_of_le (small : limit.toNat ≤ maxBufferSize) :
    ¬Overfills limit response := by
  rintro ⟨size, -, beyond, within⟩
  exact Nat.not_lt.mpr (Nat.le_trans within small) beyond

theorem archiveIn_of_overfills (found : response.status = 200)
    (overfills : Overfills limit response) : archiveIn url limit response = .aborted := by
  obtain ⟨size, announced, beyond, within⟩ := overfills
  unfold archiveIn
  rw [if_neg (not_not_intro found), announced, Option.any_some, Option.any_some,
    decide_eq_false (Nat.not_lt.mpr within), decide_eq_true beyond]
  rfl

/-- Where a buffer has room for the announced size, the pieces decide. -/
theorem archiveIn_of_not_overfills (found : response.status = 200)
    (fits : ¬Overfills limit response) :
    archiveIn url limit response =
      if response.contentLength.any (limit.toNat < ·) then .failed (.tooLarge url limit)
      else
        match gather limit.toNat [] response.chunks with
        | none => .failed (.tooLarge url limit)
        | some archive =>
            if response.isWhole then .fetched archive else .failed (.transport url) := by
  unfold archiveIn
  rw [if_neg (not_not_intro found)]
  split
  · rfl
  · next unannounced =>
      refine if_neg fun beyond => ?_
      obtain ⟨size, announced, above⟩ := announced_any_iff.mp beyond
      have within : size ≤ limit.toNat := Nat.not_lt.mp fun more =>
        unannounced (announced_any_iff.mpr ⟨size, announced, more⟩)
      exact fits ⟨size, announced, above, within⟩

theorem archiveIn_of_exceeds (found : response.status = 200) (fits : ¬Overfills limit response)
    (exceeds : Exceeds limit response) :
    archiveIn url limit response = .failed (.tooLarge url limit) := by
  rw [archiveIn_of_not_overfills found fits]
  split
  · rfl
  · next unannounced =>
      have passes : limit.toNat < response.bytes.length :=
        exceeds.resolve_left fun above => unannounced (announced_any_iff.mpr above)
      rw [gather_of_lt (Nat.zero_le _) passes]

theorem archiveIn_of_not_exceeds (found : response.status = 200)
    (fits : ¬Overfills limit response) (within : ¬Exceeds limit response) :
    archiveIn url limit response =
      if response.isWhole then .fetched response.bytes else .failed (.transport url) := by
  obtain ⟨unannounced, short⟩ := not_or.mp within
  have announced : ¬response.contentLength.any (limit.toNat < ·) = true :=
    fun above => unannounced (announced_any_iff.mp above)
  rw [archiveIn_of_not_overfills found fits, if_neg announced,
    gather_of_le (Nat.not_lt.mp short)]
  rfl

/-- A response comes to what it yields, if the program can make room for it. -/
theorem yields_archiveIn (url : String)
    (room : ¬(response.status = 200 ∧ Overfills limit response)) :
    Yields url limit response (archiveIn url limit response) := by
  have fits (found : response.status = 200) : ¬Overfills limit response :=
    fun overfills => room ⟨found, overfills⟩
  constructor
  · exact fun other => if_pos other
  · exact fun found exceeds => archiveIn_of_exceeds found (fits found) exceeds
  · intro found within broken
    rw [archiveIn_of_not_exceeds found (fits found) within, broken]
    rfl
  · intro found within whole
    rw [archiveIn_of_not_exceeds found (fits found) within, whole]
    rfl

theorem Yields.failed_or_within {outcome : FetchOutcome}
    (yields : Yields url limit response outcome) :
    (∃ error, outcome = .failed error) ∨
      outcome = .fetched response.bytes ∧ response.bytes.length ≤ limit.toNat := by
  by_cases found : response.status = 200
  · by_cases exceeds : Exceeds limit response
    · exact Or.inl ⟨_, yields.tooLarge found exceeds⟩
    · cases whole : response.isWhole
      · exact Or.inl ⟨_, yields.transport found exceeds whole⟩
      · exact Or.inr ⟨yields.delivered found exceeds whole, Nat.not_lt.mp (not_or.mp exceeds).2⟩
  · exact Or.inl ⟨_, yields.status found⟩

theorem archiveIn_eq_aborted_iff :
    archiveIn url limit response = .aborted ↔
      response.status = 200 ∧ Overfills limit response := by
  refine ⟨fun aborted => Classical.byContradiction fun room => ?_, fun overfills =>
    archiveIn_of_overfills overfills.1 overfills.2⟩
  have yields := yields_archiveIn url room
  rcases yields.failed_or_within with ⟨error, failed⟩ | ⟨fetched, -⟩
  · exact absurd (failed.symm.trans aborted) (by simp)
  · exact absurd (fetched.symm.trans aborted) (by simp)

/-- What is delivered does not depend on the pieces in which it arrives. -/
theorem archiveIn_joined (url : String) (limit : UInt64) (response : Response) :
    archiveIn url limit response.joined = archiveIn url limit response := by
  have gathered : gather limit.toNat [] response.joined.chunks =
      gather limit.toNat [] response.chunks :=
    gather_congr (Nat.zero_le _) response.bytes_joined
  unfold archiveIn
  rw [gathered]
  rfl

end Delivering

section Fetching

variable {m : Type → Type} [Monad m] [LawfulMonad m]

/-- What comes of an exchange: without a response it has failed. -/
def archiveOf (url : String) (limit : UInt64) (reply : Option Response) : FetchOutcome :=
  reply.elim (.failed (.transport url)) (archiveIn url limit)

theorem archiveOf_joined (url : String) (limit : UInt64) (reply : Option Response) :
    archiveOf url limit (reply.map Response.joined) = archiveOf url limit reply := by
  cases reply with
  | none => rfl
  | some response => exact archiveIn_joined url limit response

theorem fetchArchive_eq (transport : Transport m) (userAgent url : String) (limit : UInt64) :
    fetchArchive transport userAgent url limit =
      archiveOf url limit <$> Http.ask transport userAgent url := by
  unfold fetchArchive
  rw [map_eq_pure_bind]
  refine bind_congr fun reply => ?_
  cases reply <;> rfl

theorem fetchArchive_joined (transport : Transport m) (userAgent url : String)
    (limit : UInt64) :
    fetchArchive transport.joined userAgent url limit =
      fetchArchive transport userAgent url limit := by
  rw [fetchArchive_eq, fetchArchive_eq, Http.ask_joined, Functor.map_map]
  exact congrArg (· <$> Http.ask transport userAgent url) (funext (archiveOf_joined url limit))

/-- Of a response that sends the client nowhere else, nothing more is asked. -/
theorem fetchArchive_of_absent {transport : Transport m} {userAgent url : String}
    (limit : UInt64) {address : Http.Address} {response : Response}
    (isAddress : Http.Address.ofString? url = some address)
    (replies : transport ⟨address, userAgent⟩ = pure (some response))
    (stays : Http.redirection address response = .absent) :
    fetchArchive transport userAgent url limit = pure (archiveIn url limit response) := by
  have asked : Http.ask transport userAgent url = pure (some response) := by
    rw [Http.ask, isAddress]
    dsimp only
    rw [Http.maxRedirects, Http.follow, replies, pure_bind, Http.proceed, stays]
  rw [fetchArchive_eq, asked, map_pure, archiveOf, Option.elim_some]

/-- A program never comes down over an archive whose size is limited to what a buffer has room
for. -/
theorem archiveOf_ne_aborted {url : String} {limit : UInt64}
    (small : limit.toNat ≤ maxBufferSize) (reply : Option Response) :
    archiveOf url limit reply ≠ .aborted := by
  cases reply with
  | none => simp [archiveOf]
  | some response =>
      intro aborted
      exact not_overfills_of_le small (archiveIn_eq_aborted_iff.mp aborted).2

theorem length_le_of_archiveOf {url : String} {limit : UInt64} {reply : Option Response}
    {archive : Bytes} (fetched : archiveOf url limit reply = .fetched archive) :
    archive.length ≤ limit.toNat := by
  cases reply with
  | none => simp [archiveOf] at fetched
  | some response =>
      have room : ¬(response.status = 200 ∧ Overfills limit response) := fun overfills => by
        simp [archiveOf, archiveIn_of_overfills overfills.1 overfills.2] at fetched
      have yields := yields_archiveIn url room
      rcases yields.failed_or_within with ⟨error, failed⟩ | ⟨same, within⟩
      · exact absurd (failed.symm.trans fetched) (by simp)
      · obtain rfl := FetchOutcome.fetched.inj (same.symm.trans fetched)
        exact within

/-- A download brings what the last response yields, which is never above the limit.  It makes
no difference in which pieces servers send what they send.  Only if the announced size is
within the limit and no buffer has room for it does the program come down. -/
theorem download_of_exchange (userAgent url : String) (limit : UInt64) :
    (∀ transport : Transport m, fetchArchive transport userAgent url limit =
      archiveOf url limit <$> Http.ask transport userAgent url) ∧
    (∀ (transport : Transport m) address response,
      Http.Address.ofString? url = some address →
      transport ⟨address, userAgent⟩ = pure (some response) →
      Http.redirection address response = .absent →
        fetchArchive transport userAgent url limit =
          pure (archiveOf url limit (some response))) ∧
    (∀ response, (archiveOf url limit (some response) = .aborted ↔
        response.status = 200 ∧ Overfills limit response) ∧
      (archiveOf url limit (some response) ≠ .aborted →
        Yields url limit response (archiveOf url limit (some response)))) ∧
    (limit.toNat ≤ maxBufferSize → ∀ reply, archiveOf url limit reply ≠ .aborted) ∧
    (∀ reply archive, archiveOf url limit reply = .fetched archive →
      archive.length ≤ limit.toNat) ∧
    ∀ left right : Transport m, left.joined = right.joined →
      fetchArchive left userAgent url limit = fetchArchive right userAgent url limit := by
  refine ⟨fun transport => ?_, ?_, ?_, archiveOf_ne_aborted, ?_, ?_⟩
  · exact fetchArchive_eq transport userAgent url limit
  · intro transport address response isAddress replies stays
    exact fetchArchive_of_absent limit isAddress replies stays
  · intro response
    refine ⟨archiveIn_eq_aborted_iff, fun stays => yields_archiveIn url fun overfills => ?_⟩
    exact stays (archiveIn_eq_aborted_iff.mpr overfills)
  · exact fun reply archive => length_le_of_archiveOf
  · intro left right same
    rw [← fetchArchive_joined left, same, fetchArchive_joined right]

end Fetching

section Sample

def sampleAddress : String := "https://releases.test/coder-cli-linux-amd64.tar.gz"

/-- A server that sends pieces of a body, whatever it is asked for. -/
def sending (announced : Option Nat) (pieces : List Bytes) (isWhole : Bool) : Transport Id :=
  fun _ => some ⟨200, [], announced, pieces, isWhole⟩

theorem isAddress_sampleAddress :
    ∃ address, Http.Address.ofString? sampleAddress = some address := by
  have isAddress : (Http.Address.ofString? sampleAddress).isSome = true := by
    decide +kernel
  exact Option.isSome_iff_exists.mp isAddress

theorem fetchArchive_sending (announced : Option Nat) (pieces : List Bytes) (isWhole : Bool)
    (limit : UInt64) :
    fetchArchive (sending announced pieces isWhole) "coder-cli" sampleAddress limit =
      archiveOf sampleAddress limit (some ⟨200, [], announced, pieces, isWhole⟩) := by
  obtain ⟨address, isAddress⟩ := isAddress_sampleAddress
  exact fetchArchive_of_absent limit isAddress rfl rfl

/-- A body that is as large as it may be, and one that is too large where it breaks off. -/
theorem download_of_samplePieces :
    fetchArchive (sending none [[1, 2], [], [3]] true) "coder-cli" sampleAddress 3 =
        .fetched [1, 2, 3] ∧
      fetchArchive (sending none [[1, 2, 3]] true) "coder-cli" sampleAddress 3 =
        fetchArchive (sending none [[1, 2], [], [3]] true) "coder-cli" sampleAddress 3 ∧
      fetchArchive (sending none [[1, 2], [], [3]] false) "coder-cli" sampleAddress 2 =
        .failed (.tooLarge sampleAddress 2) := by
  obtain ⟨-, -, yields, stays, -, pieces⟩ :=
    download_of_exchange (m := Id) "coder-cli" sampleAddress 3
  obtain ⟨-, -, yieldsLess, staysLess, -⟩ :=
    download_of_exchange (m := Id) "coder-cli" sampleAddress 2
  refine ⟨?_, pieces _ _ rfl, ?_⟩
  · rw [fetchArchive_sending]
    apply ((yields _).2 (stays (by decide) _)).delivered rfl _ rfl
    simp [Exceeds, Response.bytes]
  · rw [fetchArchive_sending]
    apply ((yieldsLess _).2 (staysLess (by decide) _)).tooLarge rfl
    simp [Exceeds, Response.bytes]

/-- A server that has moved everything to another place. -/
def moved : Transport Id := fun request =>
  if request.address.target = "/new".toList then some ⟨200, [], none, [[1]], true⟩
  else some ⟨302, [("location", "/new")], none, [], true⟩

theorem fetchArchive_moved :
    Id.run (fetchArchive moved "coder-cli" sampleAddress 3) = .fetched [1] := by
  decide +kernel

theorem moved_sampleAddress {address : Http.Address}
    (isAddress : Http.Address.ofString? sampleAddress = some address) :
    moved ⟨address, "coder-cli"⟩ = some ⟨302, [("location", "/new")], none, [], true⟩ := by
  have elsewhere : (Http.Address.ofString? sampleAddress).map Http.Address.target ≠
      some "/new".toList := by
    decide +kernel
  rw [isAddress, Option.map_some] at elsewhere
  exact if_neg fun same => elsewhere (congrArg some same)

/-- A download comes to what the response to its first request yields. -/
def YieldsFirst (transport : Transport Id) (userAgent url : String) (limit : UInt64) : Prop :=
  ∀ address response, Http.Address.ofString? url = some address →
    transport ⟨address, userAgent⟩ = some response →
      Yields url limit response (fetchArchive transport userAgent url limit)

/-- Not every download comes to what its first response yields, not even if a buffer has room
for all that is within the limit, or if no server sends the client on. -/
theorem not_yieldsFirst_of_every_exchange :
    (¬∀ transport userAgent url limit, limit.toNat ≤ maxBufferSize →
      YieldsFirst transport userAgent url limit) ∧
    ¬∀ transport userAgent url limit,
      (∀ request response, transport request = some response → response.status = 200) →
        YieldsFirst transport userAgent url limit := by
  obtain ⟨address, isAddress⟩ := isAddress_sampleAddress
  constructor
  · intro yields
    have first := (yields moved "coder-cli" sampleAddress 3 (by decide) address _ isAddress
      (moved_sampleAddress isAddress)).status (by decide)
    exact absurd (fetchArchive_moved.symm.trans first) (by simp)
  · intro yields
    have announced : Overfills 0xffffffffffffffff ⟨200, [], some (2 ^ 63), [], false⟩ :=
      ⟨_, rfl, by decide, by decide⟩
    have first := (yields (sending (some (2 ^ 63)) [] false) "coder-cli" sampleAddress
      0xffffffffffffffff (fun _ _ sent => Option.some.inj sent ▸ rfl) address _ isAddress
      rfl).transport rfl (by simp [Exceeds, Response.bytes]) rfl
    rw [fetchArchive_sending, archiveOf, Option.elim_some,
      archiveIn_of_overfills rfl announced] at first
    cases first

end Sample

end SelfUpdate
