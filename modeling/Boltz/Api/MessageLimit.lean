import Mathlib.Data.List.Basic

/-!
# Message limits of WebSockets (`boltzr/src/api/ws/message_limit.rs`, `status.rs`)

Messages are counted in windows that start with the first message after the last one has ended. The
connection is closed at the first message that is too much.
-/

namespace Boltz.MessageLimit

/-- 60 seconds, in the nanoseconds of an `Instant`. -/
def MESSAGE_LIMIT_WINDOW : Nat := 60 * 1000000000

structure MessageRateLimiter where
  messagesPerMinutePerConnection : Nat
  windowStartedAt : Nat
  messageCount : Nat
  deriving DecidableEq, Repr

def MessageRateLimiter.new (messagesPerMinutePerConnection now : Nat) : MessageRateLimiter :=
  { messagesPerMinutePerConnection := messagesPerMinutePerConnection
    windowStartedAt := now
    messageCount := 0 }

/-- The window in which a message is counted. -/
def MessageRateLimiter.window (limiter : MessageRateLimiter) (now : Nat) : MessageRateLimiter :=
  if now - limiter.windowStartedAt ≥ MESSAGE_LIMIT_WINDOW then
    { limiter with windowStartedAt := now, messageCount := 0 }
  else limiter

/-- The limiter after a message, and nothing when the message is too much. -/
def MessageRateLimiter.tryAcquire (limiter : MessageRateLimiter) (now : Nat) :
    Option MessageRateLimiter :=
  let limiter := limiter.window now
  if limiter.messageCount ≥ limiter.messagesPerMinutePerConnection then none
  else some { limiter with messageCount := limiter.messageCount + 1 }

/-- A connection that has got messages. -/
structure Connection where
  messageLimiter : Option MessageRateLimiter
  /-- when messages were received and handled -/
  handled : List Nat
  /-- when the message was received at which the connection was closed -/
  closed : Option Nat
  deriving DecidableEq, Repr

def Connection.open (limit : Option Nat) (now : Nat) : Connection :=
  { messageLimiter := limit.map (MessageRateLimiter.new · now), handled := [], closed := none }

def Connection.receive (connection : Connection) (now : Nat) : Connection :=
  match connection.closed, connection.messageLimiter with
  | some _, _ => connection
  | none, none => { connection with handled := connection.handled ++ [now] }
  | none, some limiter =>
    match limiter.tryAcquire now with
    | some limiter =>
      { connection with messageLimiter := some limiter, handled := connection.handled ++ [now] }
    | none => { connection with closed := some now }

/-! ## Windows -/

/-- How many of the messages were received in the time of a window from some time on. -/
def within (start : Nat) (times : List Nat) : Nat :=
  times.countP fun time => start ≤ time ∧ time < start + MESSAGE_LIMIT_WINDOW

/-- How many of the messages were received from some time on. -/
def since (start : Nat) (times : List Nat) : Nat := times.countP fun time => start ≤ time

theorem within_append (start now : Nat) (times : List Nat) :
    within start (times ++ [now]) = within start times +
      if start ≤ now ∧ now < start + MESSAGE_LIMIT_WINDOW then 1 else 0 := by
  unfold within
  rw [List.countP_append, List.countP_singleton]
  simp only [decide_eq_true_eq]

theorem since_append (start now : Nat) (times : List Nat) :
    since start (times ++ [now]) = since start times + if start ≤ now then 1 else 0 := by
  unfold since
  rw [List.countP_append, List.countP_singleton]
  simp only [decide_eq_true_eq]

/-- What a limiter knows about the messages that were handled. -/
structure Counts (limiter : MessageRateLimiter) (handled : List Nat) : Prop where
  count_le : limiter.messageCount ≤ limiter.messagesPerMinutePerConnection
  /-- The counted messages were received in the window. -/
  counted : limiter.messageCount ≤ since limiter.windowStartedAt handled
  /-- Before the window there was at most one whose messages are near enough. -/
  before : ∀ start, limiter.windowStartedAt + MESSAGE_LIMIT_WINDOW ≤ start →
    within start handled = 0
  inside : ∀ start, limiter.windowStartedAt < start →
    within start handled ≤ limiter.messageCount
  around : ∀ start, limiter.windowStartedAt < start + MESSAGE_LIMIT_WINDOW →
    within start handled ≤ limiter.messagesPerMinutePerConnection + limiter.messageCount
  all : ∀ start, within start handled ≤ 2 * limiter.messagesPerMinutePerConnection

section

variable {limiter limiter' : MessageRateLimiter} {handled : List Nat} {now : Nat}

theorem counts_new (limit now : Nat) : Counts (.new limit now) [] :=
  ⟨Nat.zero_le _, Nat.le_refl 0, fun _ _ => rfl, fun _ _ => Nat.le_refl 0, fun _ _ => Nat.zero_le _,
    fun _ => Nat.zero_le _⟩

theorem window_started (hle : limiter.windowStartedAt ≤ now) :
    (limiter.window now).windowStartedAt ≤ now ∧
      now < (limiter.window now).windowStartedAt + MESSAGE_LIMIT_WINDOW := by
  unfold MessageRateLimiter.window
  split
  · exact ⟨Nat.le_refl now, Nat.lt_add_of_pos_right (by decide)⟩
  · rename_i hinside
    exact ⟨hle, by omega⟩

theorem window_limit (limiter : MessageRateLimiter) (now : Nat) :
    (limiter.window now).messagesPerMinutePerConnection =
      limiter.messagesPerMinutePerConnection := by
  unfold MessageRateLimiter.window
  split
  · rfl
  · rfl

/-- A window that starts after the last one has ended. -/
theorem Counts.window (h : Counts limiter handled) : Counts (limiter.window now) handled := by
  unfold MessageRateLimiter.window
  split
  · rename_i hended
    have hwindow : limiter.windowStartedAt + MESSAGE_LIMIT_WINDOW ≤ now := by
      have hpos : 0 < MESSAGE_LIMIT_WINDOW := by decide
      omega
    refine ⟨Nat.zero_le _, Nat.zero_le _, fun start (hstart : now + _ ≤ start) => ?_,
      fun start (hstart : now < start) => ?_, fun start (hstart : now < start + _) => ?_, h.all⟩
    · exact h.before start (by omega)
    · exact Nat.le_of_eq (h.before start (by omega))
    · exact Nat.le_trans (h.inside start (by omega)) h.count_le
  · exact h

/-- A message that is counted in the window. -/
theorem Counts.acquire (h : Counts limiter handled) (hstarted : limiter.windowStartedAt ≤ now)
    (hinside : now < limiter.windowStartedAt + MESSAGE_LIMIT_WINDOW)
    (hlimit : limiter.messageCount < limiter.messagesPerMinutePerConnection) :
    Counts { limiter with messageCount := limiter.messageCount + 1 } (handled ++ [now]) := by
  refine ⟨hlimit, ?_, fun start hstart => ?_, fun start hstart => ?_, fun start hstart => ?_,
    fun start => ?_⟩
  · rw [since_append, if_pos hstarted]
    exact Nat.succ_le_succ h.counted
  · rw [within_append, h.before start hstart, if_neg (by dsimp only at hstart; omega)]
  · have hle := h.inside start hstart
    rw [within_append]
    split <;> dsimp only <;> omega
  · have hle := h.around start hstart
    rw [within_append]
    split <;> dsimp only <;> omega
  · have hall := h.all start
    rw [within_append]
    split
    · have hle := h.around start (by omega)
      dsimp only
      omega
    · exact hall

end

/-! ## Connections -/

/-- What holds of a connection that has got messages until some time. -/
structure Limited (limit now : Nat) (received : List Nat) (connection : Connection) : Prop where
  limiter : ∃ limiter, connection.messageLimiter = some limiter ∧
    limiter.messagesPerMinutePerConnection = limit ∧ limiter.windowStartedAt ≤ now ∧
      Counts limiter connection.handled
  closed : ∀ time, connection.closed = some time →
    limit ≤ connection.handled.countP fun before => time < before + MESSAGE_LIMIT_WINDOW
  order : connection.handled ++ connection.closed.toList <+: received
  opened : connection.closed = none → connection.handled = received

theorem Limited.receive {limit now now' : Nat} {received : List Nat} {connection : Connection}
    (h : Limited limit now received connection) (hle : now ≤ now') :
    Limited limit now' (received ++ [now']) (connection.receive now') := by
  obtain ⟨limiter, hlimiter, rfl, hstarted, hcounts⟩ := h.limiter
  unfold Connection.receive
  rw [hlimiter]
  cases hclosed : connection.closed with
  | some time =>
    refine ⟨⟨limiter, hlimiter, rfl, Nat.le_trans hstarted hle, hcounts⟩, h.closed,
      h.order.trans (List.prefix_append _ _), fun hopen => ?_⟩
    cases hclosed.symm.trans hopen
  | none =>
    obtain ⟨hstarted', hinside⟩ := window_started (Nat.le_trans hstarted hle)
    have hreceived := h.opened hclosed
    dsimp only
    unfold MessageRateLimiter.tryAcquire
    dsimp only
    split
    · rename_i limiter' hacquired
      split at hacquired
      · cases hacquired
      · rename_i hless
        cases hacquired
        refine ⟨⟨_, rfl, window_limit limiter now', hstarted', ?_⟩, fun time htime => ?_, ?_,
          fun _ => by rw [hreceived]⟩
        · exact hcounts.window.acquire hstarted' hinside (Nat.lt_of_not_ge hless)
        · cases htime
        · simp only [hreceived, Option.toList_none, List.append_nil, List.prefix_rfl]
    · rename_i hrefused
      split at hrefused
      · rename_i hfull
        rw [window_limit] at hfull
        refine ⟨⟨limiter, rfl, rfl, Nat.le_trans hstarted hle, hcounts⟩, fun time htime => ?_, ?_,
          fun hopen => by cases hopen⟩
        · cases htime
          refine Nat.le_trans hfull (Nat.le_trans hcounts.window.counted ?_)
          refine List.countP_mono_left fun before _ hbefore => decide_eq_true ?_
          have := of_decide_eq_true hbefore
          omega
        · simp only [hreceived, Option.toList_some, List.prefix_rfl]
      · cases hrefused

theorem Limited.run {limit now : Nat} {received times : List Nat} {connection : Connection}
    (h : Limited limit now received connection) (htimes : (now :: times).Pairwise (· ≤ ·)) :
    ∃ now', Limited limit now' (received ++ times) (times.foldl Connection.receive connection) := by
  induction times generalizing now received connection with
  | nil =>
    rw [List.append_nil]
    exact ⟨now, h⟩
  | cons next times ih =>
    obtain ⟨hfirst, hrest⟩ := List.pairwise_cons.mp htimes
    have hnext := h.receive (hfirst next List.mem_cons_self)
    obtain ⟨now', hlimited⟩ := ih hnext hrest
    rw [List.append_assoc] at hlimited
    exact ⟨now', hlimited⟩

/-- A connection handles its messages in order, until it is closed at one of them. In no minute are
more than twice as many handled as the limit says, and when it is closed, at least as many have been
handled in the last minute. -/
theorem messages_limited {limit opened : Nat} {times : List Nat}
    (htimes : (opened :: times).Pairwise (· ≤ ·)) {connection : Connection}
    (h : times.foldl Connection.receive (.open (some limit) opened) = connection) :
    connection.handled ++ connection.closed.toList <+: times ∧
      (connection.closed = none → connection.handled = times) ∧
      (∀ start, within start connection.handled ≤ 2 * limit) ∧
      ∀ time, connection.closed = some time →
        limit ≤ connection.handled.countP fun before => time < before + MESSAGE_LIMIT_WINDOW := by
  have hopened : Limited limit opened [] (.open (some limit) opened) :=
    ⟨⟨_, rfl, rfl, Nat.le_refl _, counts_new limit opened⟩, fun _ h => (nomatch h), List.prefix_rfl,
      fun _ => rfl⟩
  obtain ⟨now', hlimited⟩ := hopened.run htimes
  rw [h, List.nil_append] at hlimited
  obtain ⟨limiter, -, rfl, -, hcounts⟩ := hlimited.limiter
  exact ⟨hlimited.order, hlimited.opened, hcounts.all, hlimited.closed⟩

/-- Twice the limit is reached when a window starts right after many messages. The last ones before
its start are a nanosecond old. -/
def exampleArrivals : List Nat :=
  [59999999999, 59999999999, 60000000000, 60000000000, 61000000000]

theorem messages_limited_example :
    (exampleArrivals.foldl Connection.receive (.open (some 2) 0)).closed = some 61000000000 ∧
      within 59999999999
        (exampleArrivals.foldl Connection.receive (.open (some 2) 0)).handled = 4 ∧
      ∀ start, within start
        (exampleArrivals.foldl Connection.receive (.open (some 2) 0)).handled ≤ 4 :=
  ⟨by decide, by decide, (messages_limited (by decide) rfl).2.2.1⟩

end Boltz.MessageLimit
