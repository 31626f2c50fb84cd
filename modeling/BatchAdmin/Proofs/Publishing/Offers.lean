/-
What a publish comes to.

A publish that has the publisher for itself skips a file that is claimed.
Any other file it offers to the channel, once. If the channel refuses it,
nothing but the channel has changed; if the channel accepts it, the file is
claimed for good and announced (`Publisher.Publishes`).

What a channel accepts of the files that it is offered can be told without
a publisher (`Publisher.heard`).
-/
import BatchAdmin.Publishing.Publisher

namespace BatchAdmin

namespace Publisher

-- ============================================================= the publishes

variable {p : Publisher} {file : FileInfo}

/-- The channel once the file has been offered to it. -/
def pastOffer (p : Publisher) (file : FileInfo) : Option Channel :=
  p.channel.map fun channel => (channel.deliver file).2

/-- What a publish can come to. -/
inductive Publishes (p : Publisher) (file : FileInfo) :
    Except String Bool × Publisher → Prop
  | skipped (h : file.key ∈ p.claimed) : Publishes p file (.ok false, p)
  | refused {channel : Channel} {why : String} (h : file.key ∉ p.claimed)
      (hchannel : p.channel = some channel)
      (hwhy : (channel.deliver file).1 = .error why) :
      Publishes p file (.error why, { p with channel := p.pastOffer file })
  | accepted (h : file.key ∉ p.claimed)
      (hchannel : ∀ channel, p.channel = some channel →
        (channel.deliver file).1 = .ok ()) :
      Publishes p file
        (.ok true, ⟨p.pastOffer file, file.key :: p.claimed,
          p.bulletin.announce file⟩)

/-- The channel is offered the file once, and says what it says. -/
theorem offer_cases (p : Publisher) (file : FileInfo) :
    (∃ channel why, p.channel = some channel
        ∧ (channel.deliver file).1 = .error why
        ∧ p.offer file = (.error why, { p with channel := p.pastOffer file }))
      ∨ (∀ channel, p.channel = some channel →
            (channel.deliver file).1 = .ok ())
        ∧ p.offer file = (.ok (), { p with channel := p.pastOffer file }) := by
  obtain ⟨channel, claimed, bulletin⟩ := p
  cases channel with
  | none => exact .inr ⟨nofun, rfl⟩
  | some channel =>
      cases hsaid : (channel.deliver file).1 with
      | error why =>
          refine .inl ⟨channel, why, rfl, hsaid, ?_⟩
          rw [← hsaid]
          rfl
      | ok _ =>
          refine .inr ⟨?_, ?_⟩
          · intro other hother
            cases hother
            exact hsaid
          · rw [show Except.ok () = (channel.deliver file).1 from hsaid.symm]
            rfl

/-- A claim that is given back leaves the claims as they were. -/
theorem filter_claim {claimed : List FileKey} {key : FileKey}
    (h : key ∉ claimed) : (key :: claimed).filter (· ≠ key) = claimed := by
  rw [List.filter_cons_of_neg (by simp), List.filter_eq_self]
  intro other hother
  exact decide_eq_true fun heq => h (heq ▸ hother)

theorem publishes (p : Publisher) (file : FileInfo) :
    p.Publishes file (p.publish file) := by
  unfold publish claim
  by_cases h : file.key ∈ p.claimed
  · rw [if_pos (List.contains_iff_mem.2 h)]
    exact .skipped h
  · rw [if_neg (by rwa [List.contains_iff_mem])]
    rcases offer_cases { p with claimed := file.key :: p.claimed } file with
      ⟨channel, why, hchannel, hwhy, hoffer⟩ | ⟨hchannel, hoffer⟩
    · dsimp only
      rw [hoffer]
      dsimp only [release]
      rw [filter_claim h]
      exact .refused h hchannel hwhy
    · dsimp only
      rw [hoffer]
      exact .accepted h hchannel

/-- A publish of the file offers it to the channel. -/
def Offers (p : Publisher) (file : FileInfo) : Prop :=
  (p.publish file).1 ≠ .ok false
    ∧ (p.publish file).2.channel = p.pastOffer file

/-- A file is offered to the channel exactly if it is not claimed. -/
theorem offers_iff : p.Offers file ↔ file.key ∉ p.claimed := by
  have hp := p.publishes file
  unfold Offers
  generalize p.publish file = outcome at hp ⊢
  cases hp with
  | skipped h => exact iff_of_false (fun ho => ho.1 rfl) (fun hn => hn h)
  | refused h => exact iff_of_true ⟨nofun, rfl⟩ h
  | accepted h => exact iff_of_true ⟨nofun, rfl⟩ h

/-- Publishing on a client's behalf is publishing. -/
theorem hand_eq (p : Publisher) (file : FileInfo) :
    (p.hand file).2 = (p.publish file).2 := by
  unfold hand
  rcases p.publish file with ⟨why | _, after⟩
  · rfl
  · rfl

-- =============================================================== the channel

/-- Files are offered one by one; they stand the latest first. What becomes
of the channel, and which files it accepts. -/
def heard (channel : Option Channel) :
    List FileInfo → Option Channel × List FileInfo
  | [] => (channel, [])
  | file :: earlier =>
      match heard channel earlier with
      | (none, accepted) => (none, file :: accepted)
      | (some channel, accepted) =>
          match channel.deliver file with
          | (.error _, channel) => (some channel, accepted)
          | (.ok (), channel) => (some channel, file :: accepted)

variable {first : Option Channel} {channel : Channel}
  {earlier accepted : List FileInfo}

theorem heard_of_refused (h : heard first earlier = (p.channel, accepted))
    (hchannel : p.channel = some channel) {why : String}
    (hwhy : (channel.deliver file).1 = .error why) :
    heard first (file :: earlier) = (p.pastOffer file, accepted) := by
  unfold heard pastOffer
  rw [h, hchannel]
  dsimp only
  rcases hsaid : channel.deliver file with ⟨_ | _, after⟩
  · rw [Option.map_some, hsaid]
  · rw [hsaid] at hwhy
    cases hwhy

theorem heard_of_accepted (h : heard first earlier = (p.channel, accepted))
    (hchannel : ∀ channel, p.channel = some channel →
      (channel.deliver file).1 = .ok ()) :
    heard first (file :: earlier) = (p.pastOffer file, file :: accepted) := by
  unfold heard pastOffer
  rw [h]
  cases hsome : p.channel with
  | none => rfl
  | some channel =>
      have hok := hchannel channel hsome
      dsimp only
      rcases hsaid : channel.deliver file with ⟨_ | _, after⟩
      · rw [hsaid] at hok
        cases hok
      · rw [Option.map_some, hsaid]

end Publisher

end BatchAdmin
