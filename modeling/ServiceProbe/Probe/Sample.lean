import ServiceProbe.Probe

/-!
Small probes without a protocol behind them, to try out a registry with: one
that counts its runs, one that always fails and one whose pattern cannot be
used.
-/

namespace ServiceProbe.Probe

/-- Passes when it is told how often this instance has been run, or nothing. -/
def counting : Probe where
  arguments := [("expect", .digits)]
  resolvesTarget := false
  usage := "host must run counting [with expect N]"
  run earlier run :=
    let count := toString (earlier + 1)
    let expected := run.test.argument "expect"
    if expected = "" ∨ expected = count then .ok ⟨.ok (), []⟩
    else .ok (.failure (.mismatch s!"call {count}"))

/-- Says which target it refused and how much time it had. -/
def refusing : Probe where
  arguments := []
  resolvesTarget := false
  usage := "host must run replaced"
  run _ run :=
    .ok (.failure (.protocol s!"refused {run.target} within {run.timeout.text}"))

/-- Declares a pattern that cannot be compiled. -/
def broken : Probe where
  arguments := [
    ("bad", .malformed "(" "regex parse error:\n    (\n    ^\nerror: unclosed group")]
  resolvesTarget := true
  usage := ""
  run _ _ := .ok ⟨.ok (), []⟩

end ServiceProbe.Probe
