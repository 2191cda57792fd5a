import RefreshRate.Signal.Basic

namespace RefreshRate

/-!
# The bus

The bus keeps the registrations of subscribers by topic, in the order in which
they were made.  A signal is delivered to all subscribers that are registered on
its topic when it is published.
-/

/-- The registrations made so far, oldest first. -/
structure Bus (Subscriber : Type) where
  registrations : List (Topic × Subscriber) := []
  deriving Repr, DecidableEq

namespace Bus

variable {Subscriber : Type}

/-- Register a subscriber on a topic. -/
def subscribe
    (bus : Bus Subscriber)
    (topic : Topic)
    (subscriber : Subscriber) :
    Bus Subscriber where
  registrations := bus.registrations ++ [(topic, subscriber)]

/-- The subscribers of a topic, once for each of their registrations on it. -/
def subscribers
    (bus : Bus Subscriber)
    (topic : Topic) :
    List Subscriber :=
  (bus.registrations.filter fun registration => registration.1 == topic).map Prod.snd

/-- Whether anyone is registered on a topic. -/
def hasSubscriber
    (bus : Bus Subscriber)
    (topic : Topic) :
    Bool :=
  bus.registrations.any fun registration => registration.1 == topic

/-- Register a subscriber on each of several topics. -/
def subscribeAll
    (bus : Bus Subscriber)
    (topics : List Topic)
    (subscriber : Subscriber) :
    Bus Subscriber :=
  topics.foldl (fun bus topic => bus.subscribe topic subscriber) bus

/-- Deliver a signal to its subscribers, of which none publishes or subscribes itself. -/
def publish
    {World : Type}
    (bus : Bus Subscriber)
    (receive : Subscriber → Signal → World → World)
    (signal : Signal)
    (world : World) :
    World :=
  (bus.subscribers signal.topic).foldl
    (fun world subscriber => receive subscriber signal world)
    world

@[simp]
theorem subscribers_subscribe
    (bus : Bus Subscriber)
    (topic other : Topic)
    (subscriber : Subscriber) :
    (bus.subscribe topic subscriber).subscribers other =
      bus.subscribers other ++ if topic = other then [subscriber] else [] := by
  by_cases same : topic = other <;> simp [subscribe, subscribers, same]

/-- A topic has a subscriber exactly when its list of subscribers is not empty. -/
theorem hasSubscriber_eq
    (bus : Bus Subscriber)
    (topic : Topic) :
    bus.hasSubscriber topic = !(bus.subscribers topic).isEmpty := by
  simp only [hasSubscriber, subscribers]
  induction bus.registrations with
  | nil =>
      rfl
  | cons registration rest inductionHypothesis =>
      by_cases same : registration.1 == topic <;>
        simp [same, inductionHypothesis]

end Bus

end RefreshRate
