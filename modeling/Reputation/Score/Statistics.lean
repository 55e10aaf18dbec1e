/-
**Streaming statistics.**

What the stream of accepted scores comes down to. A score is lifted to ten-thousandths and blended
into a fast and a slow average; the distance of the two is blended into the volatility. Rapid
repeats raise burst pressure and low scores raise negative pressure, and both fade otherwise. Loyal
repeats add to loyalty. The times between events are averaged by their logarithm. The peak of the
slow average and the deepest fall from it are kept.

Averages cannot be undone, so a revocation only makes one step towards the mean of what is still
remembered.
-/

import Reputation.Config.Basic
import Reputation.Numeric.Logarithm

namespace Reputation

/-- How a write stands to the same rater's write before it. -/
inductive Repetition where
  /-- No write of the rater is remembered. -/
  | fresh
  /-- The rater came back too soon. -/
  | rapid
  /-- The rater came back after a while. -/
  | returning
deriving DecidableEq, Repr

/-- The repetition of a write at `now`, given the time of the remembered one. -/
def Repetition.classify (previous : Option UInt64) (now delay : UInt64) : Repetition :=
  match previous with
  | none => .fresh
  | some time => if now.toNat - time.toNat < delay.toNat then .rapid else .returning

/-- An accepted score. -/
structure Sample where
  score : UInt8
  /-- The time since the entity's last event, none at the first. -/
  gap : Option UInt64
  repetition : Repetition
deriving DecidableEq, Repr

/-- The statistics of an entity. -/
structure Statistics where
  fast : UInt32 := 0
  slow : UInt32 := 0
  volatility : UInt32 := 0
  /-- The average logarithm of the times between events, in hundredths. -/
  arrival : UInt32 := 0
  /-- Whether a time between events has been seen. -/
  arrivalSeeded : Bool := false
  burst : UInt8 := 0
  negative : UInt8 := 0
  loyalty : UInt8 := 0
  /-- The peak of the slow average. -/
  peak : UInt32 := 0
  /-- The deepest fall of the slow average from a peak. -/
  drawdown : UInt32 := 0
deriving DecidableEq, Repr

/-- The highest pressure. -/
def pressureMax : Nat := 255

/-- The highest loyalty. -/
def loyaltyMax : Nat := 255

/-- The highest arrival average. -/
def arrivalMax : Nat := 6400

/-- The highest value of an average of scores. -/
def averageScale : Nat := 10000

/-- A step of an average held in a 32-bit word. -/
def blendWord (old : UInt32) (target : Nat) (rate : UInt32) : UInt32 :=
  UInt32.ofNat (blend old.toNat target rate.toNat)

/-- A score on the scale of the averages. -/
def liftScore (score : UInt8) : Nat := min score.toNat 100 * 100

/-- A pressure pulled towards the highest one. -/
def raisePressure (pressure : UInt8) (rate : UInt32) : UInt8 :=
  UInt8.ofNat (min (blend pressure.toNat pressureMax rate.toNat) pressureMax)

/-- The given percentage of a pressure, rounded down, so a quiet stream comes to rest at zero. -/
def fadePressure (pressure share : UInt8) : UInt8 :=
  UInt8.ofNat (pressure.toNat * min share.toNat 99 / 100)

namespace Statistics

/-- Moves the fast and the slow average towards a target. -/
def moveAverages (statistics : Statistics) (target : Nat) (policy : StatisticsPolicy) :
    Statistics :=
  { statistics with
    fast := blendWord statistics.fast target policy.fastRate
    slow := blendWord statistics.slow target policy.slowRate }

/-- Blends the distance of the averages into the volatility. -/
def moveVolatility (statistics : Statistics) (policy : StatisticsPolicy) : Statistics :=
  { statistics with
    volatility := blendWord statistics.volatility
      (distance statistics.fast.toNat statistics.slow.toNat) policy.volatilityRate }

/-- Raises burst pressure for a rapid repeat, lets it fade otherwise, and adds to loyalty for a
loyal repeat. -/
def countRepetition (statistics : Statistics) (repetition : Repetition)
    (policy : StatisticsPolicy) : Statistics :=
  match repetition with
  | .rapid => { statistics with burst := raisePressure statistics.burst policy.burstRate }
  | .fresh => { statistics with burst := fadePressure statistics.burst policy.decayShare }
  | .returning =>
    { statistics with
      burst := fadePressure statistics.burst policy.decayShare
      loyalty := UInt8.ofNat
        (min (statistics.loyalty.toNat + policy.loyaltyStep.toNat) loyaltyMax) }

/-- Raises negative pressure for a low score and lets it fade otherwise. -/
def countNegative (statistics : Statistics) (score : UInt8) (policy : StatisticsPolicy) :
    Statistics :=
  { statistics with
    negative :=
      if score < policy.negativeThreshold then
        raisePressure statistics.negative policy.negativeRate
      else fadePressure statistics.negative policy.decayShare }

/-- Takes in the time since the last event; the first one is taken over as it is. -/
def countGap (statistics : Statistics) (gap : Option UInt64) (policy : StatisticsPolicy) :
    Statistics :=
  match gap with
  | none => statistics
  | some gap =>
    let observed := min (log2Centi gap.toNat) arrivalMax
    { statistics with
      arrivalSeeded := true
      arrival :=
        if statistics.arrivalSeeded then
          blendWord statistics.arrival observed policy.arrivalRate
        else UInt32.ofNat observed }

/-- Brings the peak and the deepest fall up to date. -/
def trackDrawdown (statistics : Statistics) : Statistics :=
  let peak := max statistics.peak.toNat statistics.slow.toNat
  { statistics with
    peak := UInt32.ofNat peak
    drawdown := UInt32.ofNat (max statistics.drawdown.toNat (peak - statistics.slow.toNat)) }

/-- The statistics after an accepted score. -/
def update (statistics : Statistics) (sample : Sample) (policy : StatisticsPolicy) : Statistics :=
  ((((statistics.moveAverages (liftScore sample.score) policy).moveVolatility policy
    |>.countRepetition sample.repetition policy).countNegative sample.score policy).countGap
      sample.gap policy).trackDrawdown

/-- The statistics after a score was revoked: one step towards the mean of the remembered scores, if
there are any, and some relief from negative pressure if the score was a low one. -/
def correct (statistics : Statistics) (revoked : UInt8) (liveMean : Option UInt8)
    (policy : StatisticsPolicy) : Statistics :=
  let moved := match liveMean with
    | some mean => statistics.moveAverages (liftScore mean) policy
    | none => statistics
  let relieved :=
    if revoked < policy.negativeThreshold then
      { moved with negative := fadePressure moved.negative policy.decayShare }
    else moved
  relieved.trackDrawdown

end Statistics

end Reputation
