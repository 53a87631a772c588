import NotificationEngine.ChainSteps

namespace NotificationEngine

/-- A `ProviderResult` with its message, which `dispatch` does not read. -/
structure ProviderReply extends ProviderResult where
  errorMessage : Option String

/-- The exceptions that a mock provider tells apart, with their texts. -/
inductive SendError
  | timeoutError (text : String)
  | connectionError (text : String)
  | other (text : String)

/-- A mock provider; the three classes differ in what their `send` does. -/
structure MockProvider where
  channel : NotificationChannel
  failureRate : Rat
  healthy : Bool

/-- What `random.random` and `uuid.uuid4` give to one `send`. -/
structure Draws where
  tokenDraw : Rat
  draw : Rat
  hex : String

def MockProvider.healthCheck (p : MockProvider) : Bool := p.healthy

def MockProvider.simulateDowntime (p : MockProvider) : MockProvider := { p with healthy := false }

def MockProvider.simulateRecovery (p : MockProvider) : MockProvider := { p with healthy := true }

/-- The provider's name as its messages spell it. -/
def NotificationChannel.providerName : NotificationChannel → String
  | email => "Email" | sms => "SMS" | push => "Push"

/-- `f"mock-{channel}-{uuid.uuid4().hex[:8]}"`. -/
def mockExternalId (channel : NotificationChannel) (hex : String) : String :=
  "mock-" ++ channel.label ++ "-" ++ String.ofList (hex.toList.take 8)

/-- The body of the `try` of `send`; `refusal` is what it returns before it draws a timeout. -/
def MockProvider.trySend (p : MockProvider) (d : Draws) (refusal : Option ProviderReply) :
    Except SendError ProviderReply :=
  if p.healthy then
    match refusal with
    | some reply => .ok reply
    | none =>
      if d.draw < p.failureRate then .error (.timeoutError (p.channel.providerName ++ " provider timeout"))
      else .ok ⟨⟨true, some (mockExternalId p.channel d.hex), none⟩, none⟩
  else .error (.connectionError (p.channel.providerName ++ " provider is down"))

/-- A reply that reports a failure. -/
def refuse (code : NotificationErrorCode) (text : String) : ProviderReply :=
  ⟨⟨false, none, some code.value⟩, some text⟩

/-- The `except` branches of `send`. -/
def MockProvider.caught (p : MockProvider) : Except SendError ProviderReply → ProviderReply
  | .ok reply => reply
  | .error (.timeoutError _) => refuse .timeout (p.channel.providerName ++ " provider timeout")
  | .error (.connectionError text) => refuse .providerDown text
  | .error (.other text) => refuse .unknown text

/-- `recipient.startswith("+")`. -/
def dialable (recipient : String) : Bool := recipient.toList.head? = some '+'

def MockEmailProvider.send (p : MockProvider) (d : Draws) (_recipient : String) : ProviderReply :=
  p.caught (p.trySend d none)

def MockSMSProvider.send (p : MockProvider) (d : Draws) (recipient : String) : ProviderReply :=
  p.caught (p.trySend d (if dialable recipient then none
    else some (refuse .invalidRecipient "Invalid phone number format — must start with +")))

def MockPushProvider.send (p : MockProvider) (d : Draws) (_recipient : String) : ProviderReply :=
  p.caught (p.trySend d (if d.tokenDraw < 5 / 100 then
    some (refuse .invalidToken "Device token is expired or invalid") else none))

def MockProvider.send (p : MockProvider) (d : Draws) (recipient : String) : ProviderReply :=
  match p.channel with
  | .email => MockEmailProvider.send p d recipient
  | .sms => MockSMSProvider.send p d recipient
  | .push => MockPushProvider.send p d recipient

/-- The errors a channel's provider has for a recipient. -/
def mockErrors : NotificationChannel → String → List NotificationErrorCode
  | .email, _ => [.timeout, .providerDown]
  | .sms, recipient => if dialable recipient then [.timeout, .providerDown] else [.providerDown, .invalidRecipient]
  | .push, _ => [.timeout, .providerDown, .invalidToken]

/-- The provider of the channel may accept the recipient. -/
def mockAccepts (channel : NotificationChannel) (recipient : String) : Bool :=
  channel ≠ .sms || dialable recipient

section Send

variable (p : MockProvider) (d : Draws) (recipient : String)

/-- The body goes wrong by an outage or by a timeout, and only where no refusal comes first. -/
theorem MockProvider.caught_trySend (refusal : Option ProviderReply) :
    p.healthy = false ∧ (p.caught (p.trySend d refusal)).toProviderResult =
        (refuse .providerDown "").toProviderResult ∨
      p.healthy = true ∧ ((∃ reply, refusal = some reply ∧ p.caught (p.trySend d refusal) = reply) ∨
        refusal = none ∧ ((p.caught (p.trySend d refusal)).toProviderResult =
            (refuse .timeout "").toProviderResult ∨
          p.caught (p.trySend d refusal) = ⟨⟨true, some (mockExternalId p.channel d.hex), none⟩, none⟩)) := by
  cases healthy : p.healthy with
  | false => exact Or.inl ⟨rfl, by simp [MockProvider.trySend, healthy, MockProvider.caught, refuse]⟩
  | true =>
    refine Or.inr ⟨rfl, ?_⟩
    cases refusal with
    | some reply => exact Or.inl ⟨reply, rfl, by simp [MockProvider.trySend, healthy, MockProvider.caught]⟩
    | none =>
      refine Or.inr ⟨rfl, ?_⟩
      by_cases late : d.draw < p.failureRate
      · exact Or.inl (by simp [MockProvider.trySend, healthy, late, MockProvider.caught, refuse])
      · exact Or.inr (by simp [MockProvider.trySend, healthy, late, MockProvider.caught])

/-- `send` never raises: it accepts a recipient of its channel under a new id, or reports one of the
channel's errors. -/
theorem MockProvider.send_cases :
    p.healthy = true ∧ mockAccepts p.channel recipient = true ∧
        (p.send d recipient).toProviderResult = ⟨true, some (mockExternalId p.channel d.hex), none⟩ ∨
      ∃ code ∈ mockErrors p.channel recipient,
        (p.send d recipient).toProviderResult = ⟨false, none, some code.value⟩ := by
  unfold MockProvider.send
  cases channel : p.channel with
  | email =>
    dsimp only [MockEmailProvider.send]
    rcases p.caught_trySend d none with ⟨_, down⟩ | ⟨healthy, ⟨_, none, _⟩ | ⟨_, late | sent⟩⟩
    · exact Or.inr ⟨.providerDown, by simp [mockErrors], down⟩
    · cases none
    · exact Or.inr ⟨.timeout, by simp [mockErrors], late⟩
    · exact Or.inl ⟨healthy, rfl, by rw [sent, channel]⟩
  | sms =>
    dsimp only [MockSMSProvider.send]
    cases dials : dialable recipient with
    | true =>
      rw [if_pos rfl]
      rcases p.caught_trySend d none with ⟨_, down⟩ | ⟨healthy, ⟨_, none, _⟩ | ⟨_, late | sent⟩⟩
      · exact Or.inr ⟨.providerDown, by simp [mockErrors, dials], down⟩
      · cases none
      · exact Or.inr ⟨.timeout, by simp [mockErrors, dials], late⟩
      · exact Or.inl ⟨healthy, by simp [mockAccepts, dials], by rw [sent, channel]⟩
    | false =>
      rw [if_neg Bool.false_ne_true]
      rcases p.caught_trySend d (some _) with ⟨_, down⟩ | ⟨_, ⟨reply, is, replied⟩ | ⟨none, _⟩⟩
      · exact Or.inr ⟨.providerDown, by simp [mockErrors, dials], down⟩
      · cases is
        exact Or.inr ⟨.invalidRecipient, by simp [mockErrors, dials], by rw [replied]; rfl⟩
      · cases none
  | push =>
    dsimp only [MockPushProvider.send]
    by_cases bad : d.tokenDraw < 5 / 100
    · rw [if_pos bad]
      rcases p.caught_trySend d (some _) with ⟨_, down⟩ | ⟨_, ⟨reply, is, replied⟩ | ⟨none, _⟩⟩
      · exact Or.inr ⟨.providerDown, by simp [mockErrors], down⟩
      · cases is
        exact Or.inr ⟨.invalidToken, by simp [mockErrors], by rw [replied]; rfl⟩
      · cases none
    · rw [if_neg bad]
      rcases p.caught_trySend d none with ⟨_, down⟩ | ⟨healthy, ⟨_, none, _⟩ | ⟨_, late | sent⟩⟩
      · exact Or.inr ⟨.providerDown, by simp [mockErrors], down⟩
      · cases none
      · exact Or.inr ⟨.timeout, by simp [mockErrors], late⟩
      · exact Or.inl ⟨healthy, rfl, by rw [sent, channel]⟩

/-- A provider that is down accepts nothing. -/
theorem MockProvider.send_down (down : p.healthy = false) : (p.send d recipient).success = false := by
  rcases p.send_cases d recipient with ⟨healthy, _⟩ | ⟨code, _, failed⟩
  · rw [down] at healthy
    cases healthy
  · exact congrArg ProviderResult.success failed

end Send

/-- `dispatch` reads the error as it was reported. -/
theorem ProviderResult.code_value (code : NotificationErrorCode) :
    (⟨false, none, some code.value⟩ : ProviderResult).code = some code := by
  obtain ⟨defined, nonzero⟩ := code.ofValue?_value
  simp [ProviderResult.code, defined, nonzero]

end NotificationEngine
