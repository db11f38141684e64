import ScrobbleRelay.Text.Packed

/-!
# How the characters of host names are mapped

Host names that look alike are one name: capitals count as small letters, wide and narrow forms and
ligatures as plain letters, and some characters count as nothing.  Most characters have no place in
a name.  `mapped?` gives the characters that stand for a character.

The table lists runs of code points from zero on.  A run is written as eight times its length and
the number of its rule, and the numbers that the rule needs; a rule with a sequence of its own gives
the length of the sequence instead and is for one code point.
-/

namespace ScrobbleRelay.Web.Domain

/-- What happens to the code points of a run. -/
inductive Rule
  | kept
  | refused
  | dropped
  | raised (distance : Nat)
  | lowered (distance : Nat)
  | paired
  | replaced (code : Nat)
  | spelled (codes : List Nat)
  deriving Repr, DecidableEq

/-- A run of code points with one rule. -/
structure Run where
  length : Nat
  rule : Rule
  deriving Repr, DecidableEq

def runsWithin : Nat → List Nat → List Run
  | 0, _ => []
  | _, [] => []
  | fuel + 1, head :: rest =>
    let size := head / 8
    match head % 8, rest with
    | 0, rest => ⟨size, .kept⟩ :: runsWithin fuel rest
    | 1, rest => ⟨size, .refused⟩ :: runsWithin fuel rest
    | 2, rest => ⟨size, .dropped⟩ :: runsWithin fuel rest
    | 3, distance :: rest => ⟨size, .raised distance⟩ :: runsWithin fuel rest
    | 4, distance :: rest => ⟨size, .lowered distance⟩ :: runsWithin fuel rest
    | 5, rest => ⟨size, .paired⟩ :: runsWithin fuel rest
    | 6, code :: rest => ⟨size, .replaced code⟩ :: runsWithin fuel rest
    | _, rest => ⟨1, .spelled (rest.take size)⟩ :: runsWithin fuel (rest.drop size)

/-- The runs, packed; what comes after them is refused. -/
def packedRuns : List String :=
  [ "uAiDbGlKjXMeYcEXbGbdWIMcVQKIXbGbdSQUeYXbGbdPLbdVQXbGbfBMfGMcXIbFbXmfScAbFbXmfSbYbFbZmfS",
    "cAIhFbGIcHbGkEoZXeBbdVIXeBeCXeBeCbLIcBXeEhBXeEhBcRXbaYeGoJMeRcBMkIILiCbLLhYLBIThXLBQLdBL",
    "hULhVLBILhXLhZILiDLiBLBYLiDLiFILiGcBLiKLBILiKQLBILiKLBITiJbLLiLLBYLBcEXdWoSXdWoSXdWoSXeE",
    "eCXeEeCXeEeCXeGeCXeGeCXeGeCfDIfTIXdWeSXdWeSXdWeSLBIMdTMcEmNMfAIfTbWLpzFLBIMgHLpzCQLBIMhN",
    "LcRLcTdHbdOMwMMcXMwMMwFMcHMcGMcBMwEMwDjOXbGbdUXbGbdVXbGbdYXbGbfCXbGbdRXbGbdZQMeVMyFMxZM",
    "xVMdBbcAUcMIMbWXbdWbdPLeMcUKjWbLMhFILBIRXbGbkRYMbgDLeMbHXbGbdPbFbGbdWbdPLbMMbbSbBbLJLcMJ",
    "TcLIfJbGJcXbGkULIMbEMZMNMGMJMPMWIhPMcCMbWMbVIMcIMcMILBIMcCLBQbCfAfBdCjZbGoUkRcMqVLPeNI",
    "bdTJlVbWRoEXcbDccGYRYJqYcNiIbHbWfHgUJbbCXciPclOXcjWclOXcoTclOXcjYclObeUJoURsERbfCeJsERpC",
    "ReQJiQRIJdKbPjWcFxCJbkAXdlLdmYXdlMdmYXdlNdmYXdlSdmYXdlXdmYXdlYdmYXdmHdmYXdmLdmYlCJcMRQR",
    "gUJcEJIZbGRcURQRbGcNIbHXdqVdrWXdqWdrWJXdrJdrWbGRhSRYJbWbHQRgUJcEJIXdwKdwUJIXdwQdwUJQRIJ",
    "bObHQRYZIcFXdvIdwUXdvJdwUXdvOdwUIJXdwDdwUcFfGdDYJcUJYJgUJcEJQJbORdCJYJYRIeRbGRdScFcEJYJ",
    "cMRQRgUJcEJQJbORcURQRYcFYbHXefPegQXefQegQJbORfOdDQJbWZYJbGZQJIJQZQZYZdSbHbOZYJbGRIbXIeJ",
    "gMbPeAJYJhCJeYRcUJYJbGcFQJYJQRbGRdCcFgUJYJhCJdCJbORcUJYJbGcFQbPYJbGRdCJYdTeAJYJpSJYJbWbH",
    "eYRiAJYJfOZhKJcUJIRcEZIbHbWJIJcMbXdCRYdTpKXfkVfjUcEbHiYlLQJIJbOJhKJIJdSXfpTfoSdCRbOJIJcE",
    "JdCRXfoLfnTXfoLfoBQjXdSMBqQXfuGfyTbGJbGXfuQfyTbGXfuVfyTbGXfvAfyTbGXfvFfyTdSXfuEfyRYbHQX",
    "fwBfwCIXfwBfwEXfyOfwQbFfyOfwBfwQXfyPfwQbFfyPfwBfwQcEXfwBfwQfGXfxIfyTbGJbGXfxSfyTbGXfxX",
    "fyTbGXfyCfyTbGXfyHfyTdSXfxGfyRYJeQJeAlLbxGlVktKJLktKbPLktKRnOMbGbeESctKJbGRcEJIJbGRmQJbG",
    "RkEJbGRcEJIJbGReQJrOJbGRuQRjWZiAbXbaMRcAIRhoYJiQZbbKcFgUcVhKcVgEdTeAJYJQdTqASmIRdCbXdCbX",
    "dKbQdCbXbbKcFnGbPvOdDjOJdSbHdSbHIZmYRbOdLnObHiAbXdKZtCRuAJiYRdKbXdCbXeIRoERdSgFxSJbzCcN",
    "sMZeQZpSMjfIMjfHMjeYUjeWMjeXMjeQMjdSLcaeLLBIbPnKelSRbCelScMcNnGbPnOMkxNMksLMkxOIUkxOMkjD",
    "cQkxOIMkxPMkgWMkxQMkxPUkxOMkxNMkyKUkfKMcQMkyNUkyMMkfHUkfGMkyOIMkyMMkyLMkpYMkyLMkfVUcKM",
    "kyOUkyLMcIMkfBMkyNMcDbCjsTUjsCMkzHMkyZUkyXUjtCMjsPUjsLeAMjoLkMMkiRMlbTMkiQMkwKMkiLMlbUM",
    "kiKMkiJMkiGbCkiEMbSMkgHMkiEMbLMkgIMkiDMkiFbKkiEMkiCUkhTMkqCUkhPMgAUkhQMlcBbCkhOMjwHtSbuJ",
    "bGXdTbbAMcGQMlgXIbdTcMcQIbWRcAIRcMcQIcMcQIbWRcAIRcMJMIJMIJMIJMIcMcQIIMknLIMknMIMknNIMknO",
    "IMkmNIMkmOIMkmPRXltGbkRXltHbkRXltIbkRXltJbkRXltKbkRXltLbkRXltMbkRXltNbkRXltGbkRXltHbkRX",
    "ltIbkRXltJbkRXltKbkRXltLbkRXltMbkRXltNbkRXluMbkRXluNbkRXluObkRXluPbkRXluQbkRXluRbkRXluS",
    "bkRXluTbkRXluMbkRXluNbkRXluObkRXluPbkRXluQbkRXluRbkRXluSbkRXluTbkRXlwYbkRXlwZbkRXlxAbkRX",
    "lxBbkRXlxCbkRXlxDbkRXlxEbkRXlxFbkRXlwYbkRXlwZbkRXlxAbkRXlxBbkRXlxCbkRXlxDbkRXlxEbkRXlxF",
    "bkRQXlxObkRXbkJbkRXbkEbkRJIXmaGbkRUIMcWMkqHXbkJbkRXbGbeHMkpXXbGbeHXbGbgCbFbGbdWbgCXlxS",
    "bkRXbkPbkRXbkGbkRJIXmaWbkRMdIMkqUMdIMkqVXbkPbkRbFbGbeHbdObFbGbeHbdPbFbGbeHbgCYMksHRQUIM",
    "dWMkrKJbFbGbeIbdObFbGbeIbdPbFbGbeIbgCYMkrRbGUIMeIMkqWMHbFbGbdWbdObFbGbdWbdPMlyTRXlyAbkRX",
    "blHbkRXblMbkRJIXmcSbkRMeYMkrLMeWMkrLXblHbkRXbGbdPXbGbeIJdQbGKQRIMBbOXbGbfNdSZIcFMmdRYX",
    "mfAmfAbFmfAmfAmfAIXmfDmfDbFmfDmfDmfDbGXbHbHIXbGbdTcMXcLcLXcLbHXbHcLeAbNmfAmfAmfAmfAcEM",
    "mfNbQbPbYMmfOMmdKRcAmfOMmgDLpRMmfNUmgJMmdTdGmgEMmgTLpBMmgDUmgZJMmeXMmeUMmeLMmeDMllRMmeV",
    "bKmeTMmeSUmeQZcMXeKeLhSeJkEeRbFdTbVdVbFdTbVeLMmjFXgUdVIbFdVbVeHbFdVbVeNMlqAIXgUdYUmjJbE",
    "eAMmcEWeBWeEIMmjNXeGeHQbCmjPWeKQXeLeFbFeMdXeEXeMeFIMmjQIMldDIMmjUIMmkLMmfUUmkWIWdXMmkXL",
    "bCMmkSMmkRbKkjTMmlCIbFdYdTeQMleIWbkLMleLLiBbGWdWMmlUUmlRbWbFbXmfScDbFbXmfScFbNbXmfSbXbW",
    "bFbXmfSbZbFbYmfSbZbFbXmfScBbFbYmfScBbFbZmfScBbFcAmfScBbFbXmfScCbFcBmfScCbFbXmfScEbFbZmfS",
    "cEbFcBmfScEbFcDmfScEXbXmfSMmmPXeBeBbFeBeBeBXeBeOMmmGXeOeBbFeOeBeBbNeOeBeBeBXeBeQMmmJXeQ",
    "eBbFeQeBeBMmmYUmnIMmnAMmnFXeBeBbFeBeBeBXeBeOMmmWXeOeBbFeOeBeBbNeOeBeBeBXeBeQMmmZXeQeBbF",
    "eQeBeBMmnOUmnYMmnQYLBbObFbWmfSbZQbHbwAXmyLmyLbFmyLmyLmyLIXmyOmyObFmyOmyOmyOcyITewTdaMgV",
    "dKgNcYnsHXbXbWXbXbXXbXbYXbXbZXbXcAXbXcBXbXcCXbXcDXbXcEXbXcFXbYbWbFbObXbPbFbObYbPbFbObZbP",
    "bFbOcAbPbFbOcBbPbFbOcCbPbFbOcDbPbFbOcEbPbFbOcFbPbNbObXbWbPbNbObXbXbPbNbObXbYbPbNbObXbZbP",
    "bNbObXcAbPbNbObXcBbPbNbObXcCbPbNbObXcDbPbNbObXcEbPbNbObXcFbPbNbObYbWbPgFbFbOdTbPbFbOdUbP",
    "bFbOdVbPbFbOdWbPbFbOdXbPbFbOdYbPbFbOdZbPbFbOeAbPbFbOeBbPbFbOeCbPbFbOeDbPbFbOeEbPbFbOeFbP",
    "bFbOeGbPbFbOeHbPbFbOeIbPbFbOeJbPbFbOeKbPbFbOeLbPbFbOeMbPbFbOeNbPbFbOeObPbFbOePbPbFbOeQbP",
    "bFbOeRbPbFbOeSbPiEntTiEnuTMnxQpoAbNmyLmyLmyLmyLbfSbFcGcGcJXcJcJbFcJcJcJbfCXqgBbfSbuMRbqM",
    "oXbWoULBIMpxFMfqSMpwPQcBMpyQMpxLMpyTMpySILBQLBbWMqrYMqrNUpzZbeZcEbLYLBIbPnWJIbPIRrGcFMOI",
    "eJhKcVcEJcEJcEJcEJcEJcEJcEJcEJbmUkNiAJbGLxeKzOLbqrKdTLltGLluTLlvGLlvOLlwNLlyELlyKLlzDL",
    "maCLmyWLnaHLnaMLnbILncBLncVLneVLnfPLnfZLnlXLnpMLnqNLnqRLnrULnsCLntCLntOLnuMLnwLLnxCLnyCL",
    "pbDLpdWLpvNLpwJLpwQLpxALpxRLqaOLqsWLquRLqzGLraCLraULrbPLrdQLrdSLrrPLrrYLrsJLrsVLrxGLrxNL",
    "rxRLscDLscMLscYLsdFLsfNLsgDLsgULsjVLtgDLthWLtiQLulBLulFLuoJLuoYLupKLuqELurQLurULvcALvcXL",
    "veCLwrDLwtQLwuMLwwRLwxOLwxWLwyCLxaBLxaFLxbKLyqWLziALziLLziPLziSLziZLzjQLzjRLzmTLzvALzvEL",
    "baiELbaiNLbakKLbakQLbakYLbalFLbaoRLbaoXLbaxQLbaxWLbazSLbbaILbbcCLbblELbblKLbbmALbbyOL",
    "bcdJLbcdOLbckNLbcnVLbcpOLbdeBLbdjDLbefELbegELbeiILbekGLbemVLbenFLbenKLbeoQLberNLberWL",
    "bffDLbffJLbffRLbffZLbfgOLbfhCLbfhFLbfkFLbfkILbfkNLbgwFLbgxILbhpILbhpTLbhqPLbibLLbibXL",
    "biePLbigILbjcCLbjcQLbjdELbjeMLbjfWLbjnMLbjnXLbjqLLbjzYLbkbCLbkjCLbkjWLbkkALbksLLbkzML",
    "bleGLbleLLblePLbmoMLbmoULbmuTLbnaQLbnaSLbncMLbngMLbngYLbnhBLbnhHLbnlALbnmHLbnmMLbnmZL",
    "bntJLbnvHLbnvKLbocKLbocMLbodELbomVLbooQLbooWLborNLborWLborYLbosHLbotKLbpiOLbpxXLbpyGL",
    "bpzRLbqaMLbqaTLbqbCLbqbFLbqcSLbqcVLbqdLLbqdPLbqeBLbqfBLbqfPLbqfWLbqiCLbqiQLbqiTmZMsdKIM",
    "scYpSMbKILngZTnhBbOJbaMRQXbGskNXbGskOQXsjWsjYbdGXslNsmIbPnGJUmeZMlyNMmfAUlyNbCmfCcAlyOM",
    "meObCmfJMmeLdGmfKgQmcKKUmgFUlzKMlzHMlzGMlzCMlyZMlyYMmgGMlyWMlyVUmgIMmgHUmgGMmgDMmgCbSmgB",
    "MmfZMmfWMmfNMmfHMmfDUlyVbCmeVUmdFMmdDUmcVMmcUMmcLMmcJJQLktYLkzHLkuFLodALkuELkvMLkuDLzpPL",
    "kxBLkuOLktPLozKLofYLlaPvOdDeYbFbOglKbPbFbOglMbPbFbOglNbPbFbOglPbPbFbOglQbPbFbOglRbPbFbO",
    "glTbPbFbOglVbPbFbOglWbPbFbOglYbPbFbOglZbPbFbOgmAbPbFbOgmBbPbFbOgmCbPbFbOcndObPbFbOcowUbP",
    "bFbOcptKbPbFbOcrmQbPbFbOcsjGbPbFbOctfWbPbFbOcuzCbPbFbOcwsIbPbFbOcxoYbPbFbOcziEbPbFbOdaeU",
    "bPbFbOdbbKbPbFbOdbyAbPbFbOdcuQbPbFbOcycYbPbNbOcxaYcxtKbPbNbOcxaYddiQbPJbFbObdoAbPbFbO",
    "bdtKbPbFbObdoJbPbFbObgxFbPbFbObdtSbPbFbObevTbPbFbObdoDbPbFbObevRbPbFbObdrPbPbFbObfnTbPbF",
    "bObnaMbPbFbObqoXbPbFbObozKbPbFbObnbSbPbFbOcdfTbPbFbObgzVbPbFbObmpHbPbFbObnlQbPbFbObnaNbP",
    "bFbObtxUbPbFbObfvPbPbFbObrjDbPbFbOcbgRbPbFbObtyZbPbFbObfiIbPbFbObdwTbPbFbObfzWbPbFbObipY",
    "bPbFbObtaPbPbFbObdxXbPbFbOcbiDbPbFbObfoMbPbFbObtzPbPbFbObdyNbPbFbObxfEbPbFbObxfNbPLnhBL",
    "qtJLtkRLbbtOcMbFeIeMdXXbYbXXbYbYXbYbZXbYcAXbYcBXbYcCXbYcDXbYcEXbYcFXbZbWXbZbXXbZbYXbZbZX",
    "bZcAXbZcBMmqQUmqPbCmqOMmqNUmqMbSmqLLbubALbvuFLbwqULbyjZLbzgOLcadDLcbwILcdpNLcemCLcgfHL",
    "chbWLchyLLcivALcjrPXcziUcnmEXcycYcxmULcedEILkkULkqDLklBLntWLkqILlsILkkRLlsELkoBLmkELtwWL",
    "xlGLvvSLtxZLbkbZLnwALtlLLuhTLtwPLbatVLmrPLyfCLbicPLbauWLmeELbazNLzfXLosMLbjnPLloVLmlEL",
    "wbXLbmkJLkuALlsXLvmULkjULklCLkjTLqjVLmpVLmiSLpmZLplBLzvRLksYLbidDLmjLLooIXbZcCXbZcDXbZcE",
    "XbZcFXcAbWXcAbXXcAbYXcAbZXcAcAXcAcBXcAcCXcAcDXcAcEXcAcFXcBbWXbXbnaMXbYbnaMXbZbnaMXcAbnaM",
    "XcBbnaMXcCbnaMXcDbnaMXcEbnaMXcFbnaMbFbXbWbnaMbFbXbXbnaMbFbXbYbnaMXeAdZbFdXeKdZXdXeObFeE",
    "eMdWMvMMvLMvKMvJUvIMvHMvGMvFMvEMvDMvCMvBMvAMuZMuYMuXMuVMuUMuTcAuSMuQMuOMuMMuKbSuIMuHMuG",
    "cAuFbKuEXbdwUbgaMbNskWsmRsoIsmIbNskWsnRsmVskVbNskWsnZsnAskWbFskWsoIsnRbNskYsmLsnZslKbF",
    "skYsnZsmBbFslAslDsnZbVslCslTslJsoIsmJbNslCsoIslFsoIbFslEsnZslTbFslEsoIsnGbFslFskYsnQbN",
    "slFsnPsmDsmIbNslFsnTsnQsoIbFslGsnTsnZbFslGsnZsnEXslIslGbFslIsmLsoIbNslHsnLsnQsoIbNslIsnR",
    "smAsoIXslHsnTbVslHsnTslKsnPsnGcDslHsnTsnHsoIsmIsnRbVslHsnTsnVsmDsmIbFslKsnPsnGbVslKsnP",
    "snGsmIsnZbVslJsnRslWskYsnTbNslJsnTsoIsmNbFslLsoIslTbFslNsnRsmKbFslNsoIsnDbNslPskYslJsnR",
    "bVslPsnZsmBsoIsnGbNslRsnQsnZslKbFslVsnZsmBbFslVsnZsmIbFsmAsoIslTXsmHslRXsmJsnRXsmIsnZX",
    "smKsmObFsmOsmDsmIbFsmPskYsmEbVsmRsoIslVsnZsmIbFsmRsoIsmEbNsmQsoIsnSsnRbVsmUskWslTsmIsnR",
    "bFsmUslJsnRXsmUslNXsmTsnRbVsmVskVsnPsmDsmJbNsmVskXsoIsmIbVsmWsmDslRslBsnRbFsmVsnPsnZbV",
    "smYslJslZsoIsnRXsnAslXbFsnAsmLsmSbFsmYsnRsmEbFsnAsnZslTbFsnAsoIslSbFsmZsoIslZbNsnDskYsnZ",
    "smIbFsnCsnRsmIXsnBsnZbFsnDsnZsmJbFsnBsoIsnRbFsnBsoIsnZbNsnEskYslJsnTbFsnEskYsnRbFsnEsmD",
    "smPbFsnEsnRslJbVsnEsnZslRsnNsnZbNsnFslJsnTsnZXsnFsnQbVsnFsnQsmQsoIsnRXsnHslGbNsnHslGsmI",
    "snZbNsnHsoIsmIsnRbFsnKsoIsmJbFsnKsoIsnRbFsnMskWsnZbNsnQsmDsmIsnRXsnQsnPbFsnRsmUsoIbNsnR",
    "soIsmWsnRXsnSsnGbVsnSsnZsmIslMsnZbFsnVsmDsmIXbWbqrXXbXbqrXXbYbqrXXbZbqrXXcAbqrXXcBbqrXX",
    "cCbqrXXcDbqrXXcEbqrXXcFbqrXbFbXbWbqrXbFbXbXbqrXbFbXbYbqrXbFbXbZbqrXbFbXcAbqrXbFbXcBbqrX",
    "bFbXcCbqrXbFbXcDbqrXbFbXcEbqrXbFbXcFbqrXbFbYbWbqrXbFbYbXbqrXbFbYbYbqrXbFbYbZbqrXbFbYcA",
    "bqrXbFeAeIdTXdWdTXdTeNbFdUdTeKXeHeOXeIdVXdWeFbFdWeFbYbFdWeFbZXeBeNXbjtZbldOXbmsBbgaMX",
    "bhtVborJXbmqWbpePbNbnlQbjzZbdyWbtxUXeIdTXeGdTXbkUdTXeFdTXeDdTXeDdUXeFdUXdZdUbFdVdTeEbNeD",
    "dVdTeEXeIdYXeGdYXbkUdYXbkUdZXeFdZXeDdZXeAeSbFeDeAeSbFeFeAeSbFdZeAeSbFeMeAeSXbkUeEXeFeEX",
    "dWeEXeDeEXdYeFXeGeFXbkUeFXeFeFXdVeFXeDeFbFeFeFbYbFdVeFbYXeFbYbFeDeFbYbFeFeFbZbFdVeFbZXeF",
    "bZbFeDeFbZbFeFmxPeLbNeFmxPeLbYXeIdTbFeDeIdTbFeFeIdTbFdZeIdTbFeKdTdWbVeKdTdWmxPeLcDeKdTdW",
    "mxPeLbYXeIeLXeGeLXbkUeLXeFeLXeIeOXeGeOXbkUeOXeFeOXeDeOXeFeOXeIePXeGePXbkUePXeFePXeDePXeF",
    "ePXeDblHXeFblHJXdUeJXdVdVXdVdWbNdVmxPeDdZJXdWdUXdZeRXeAdTXeAeIXeBeGXeDeDXeDeFXeDeMXeEeFX",
    "eEeGbFeEeHdZXeEeQXeFdUbFeFeBeEbFeFeHeEXeIeAJbFeIeIeFXeIeKXeLeKXeLeOXePdUbFeOmxPeFbFdTmxP",
    "eFXbXbmpHXbYbmpHXbZbmpHXcAbmpHXcBbmpHXcCbmpHXcDbmpHXcEbmpHXcFbmpHbFbXbWbmpHbFbXbXbmpHbF",
    "bXbYbmpHbFbXbZbmpHbFbXcAbmpHbFbXcBbmpHbFbXcCbmpHbFbXcDbmpHbFbXcEbmpHbFbXcFbmpHbFbYbWbmpH",
    "bFbYbXbmpHbFbYbYbmpHbFbYbZbmpHbFbYcAbmpHbFbYcBbmpHbFbYcCbmpHbFbYcDbmpHbFbYcEbmpHbFbYcF",
    "bmpHbFbZbWbmpHbFbZbXbmpHbFdZdTeEnczOZqYcVedCgFoJfOiVMcjmGMcjmFbbScNkMeNQtHMBcMbLMcagYdHY",
    "LBIMckoEQbLQgJMckpGMckpRMckpNMckpDMckpGIMcknIMckoGMcknLLbjSfDMbWMckpFMcaiYbLMckqPfDMckyZ",
    "gFMcllEMcllVMcllTMcllJLBQMcleNMclcWpSZdCbXrGcNvOcNdSbXbjSdLjGZyAJdKbHkEJqYcVeIRdCRbfShL",
    "iQdDbWRbWRbWcVcEJcEJnOMbpLMbMMclzNMNcUMclyQQbHyUcfmUoERdCbXfcfOdThCbHpCdwaRMbpeMMcdiBM",
    "bofWMbozRMcaiTMcmrZMcknXWcilOMcimQMbncJMcjyAMcinCMcffRMbxmJMbuaSMbrmNMbqxZMbqlUMbnpCM",
    "cceSMcbaGMbzpLMbylTMbsgPMbngXMbkaZMcmpTMcktBMcbvDMbzdJMbrnUMbimCMchaFMbzzBMbrrQMbqiIM",
    "ceyMMbteSMbquYMcglYMcdiGMcayAMbyvFMbnnQMcmgLMclkXMckzPMcefKMcbxUMbzeOMbxiYMbtxJMbrqDM",
    "brmWMboqIMbldEMbjnMMbioMMbwtBMbwjTMbuvDMbsmNMbmsPMbijPMbpvFMcitFMcgkTMbvhSMbttFMbzcEM",
    "bwrDMbpcOMblgCMcitUMchkZMccgFMcavBMcajFMbvaEMbuqBMblnAMclbKMbttGMclkYMcllPMbweSMbuuZM",
    "bslZMbllSMbppQMcfaIMcchMMbpuTMcmvDMchqMMcgbMMbyrYMbxzEMckzKMbwqJMcmgKMcgfTMcmxEMcbgMM",
    "ceaRMbvbSMcktCMcizUMbxkEMbsjLMbpyRMcbrIMbobHMcbjMMcezLMbsxJMcetHMbyaJMcmrPMclqTMclnCM",
    "ccxLMbveQMbtcFMbpxRMbngXMclbUMckpAMcipYMcgoCMcdySMcacCMbwpVMblvDMbkaNMbilLMbijJMclfRM",
    "cdpDMcbuZMbofJMcgtEMcfoPMcfkIMcekTMcalBMbzpYMbyjZMbwkHMbuvIMbtwYMboiCMbseTMbnyLMbmtLM",
    "cllLMclgCMcklLMbzvJMbqtIMbqaPMcgqRMcgfEMcewNMcbtVMbvmUMbyvIMcmrKMcjpWMchtJMchbLMcgeAM",
    "bytFMbymFMbugBMbtzMMbneZMblkEMblhBMbkzCMcmlMMbwmQMbnkDMblmUMcfwYMcmvSMclyVMchtUMchqSM",
    "cecRMcclHMbzmOMbxuTMbsfUMbnwPMbieHMcdtTMblsQMcliSMcdkNMcdfYMcbfTMcasLMbyrBMbyeEMbwzZM",
    "bvgHMbkxMMcluAMcflCMblqHMcmgNMchjGMcazSMbokJMcglHMcfuJMcdfFMbywQMblqCMclnGMckuPMchqOM",
    "cdzHMcdnFMcczYMcbkGMbysCMbxzVMbujLMbqvOMbquXMbnlDMblnCMcldCMcasOMckuQMbzoGMbymXMbrxUM",
    "blpUMbjlRMbipGMcdlDMcbcCMbtmCMbweEMbwaYMbvmTMbzfMMcaaSMbpxKMcmwBMbszOMclnXMclpXMcgvRM",
    "cfgPMbvkNMciaPMcbjJMcduOMbolOMbrbWMbluAMbqpRMcguIMclyAMckfTQMcjgGIMcdxMQMclsHMbzcMMbxsVM",
    "bwuUMbwtNMbwtHMbwrSMblkOMbvmLMbuiZIMbrySIMbqcOQMbocZMbnvLYMbkvJMbkuXMbktGMbjaNMbnwYMblrK",
    "McmoWMcmcWMclyZMclkKMcljKMclfGMckiRMckeRMckaYMcjiVMcjeWMchuDMchtUMcgeZMcfwWMcfvLMcfrQM",
    "cekOMceeYMcdyGMcdfBMcbiKMcbcEMcasBMbzvMMbzoGMbyuYMbxdIMbwwSMbwwIMbwwKMbwwDMbwvYMbwvSU",
    "bwtXMbwnCMbwkQMbvyKMbvcTMbvbZMbuzWMbuoEMbuiOMbtpVWbxkRMbssEMbqxSMbqsPMbqeRMbqcOMbpmVM",
    "bpkVMbokMMbofNMblrXMblhAMbleTMcghYLeukOMbtoVRMcngKMclxKMcmaKMcmtFMcmbVMclzPMclnBMcllDM",
    "cklFMckoAMcklLMckiRMcjkKMcjhAMcjbMMcjaXMciqOMciiZMcgyYMcgySMcgtFMcgqQMcgfEMcgaRMcgdKM",
    "cfyHMcgaCMcfuNMcfsAMcfcRMcezIMcexHMcenIMcecJMcdwDMcdwAMcdtUMccfCMcccQMcbnQMcaxXMcayOM",
    "cavGMcalPMbzySMbxpMMbzrDMbzmMMbzhUMbyvGMbypOMbynOMbyeXMbyeWMbxyIMbxxSMbxwUMbxtNMbxtYM",
    "bxeTMbwmDMbwbTMbvuPMbvmAMbvgEMbutNMbulXMbtfLMbszLMbrqQMbqzDMbqwNMbqvYMbqkOMbqiKMbqkEM",
    "bqiDMbqiHMbqiZMbqgCMbqdAMbpoJMbosWMbogVMbnvNMbnnBMblzMMblvOMblrEMblmCMblkTMblkIMbliNM",
    "bkgPMbinYLekeLLekeELeooAMcukRMcssPMcsrJLfabSLfebILfqyEMbirTMbioXlTXdYdYXdYeBXdYeEbFdYdY",
    "eBbFdYdYeEXeLeMXeLeMdTXcbScbUXcbScbDXcbScbJXccCcbUXcbScbLbPXcfPceEIXcgOceHMdowSMdoxLU",
    "doxJbCdoxDMdowTMdowSMdrbIXcgFceRXcgFceSbFcgFceMceRbFcgFceMceSXcfGceHXcfGceIXcfGceMXcfH",
    "ceMXcfIceMXcfJceMXcfKceMXcfLceMXcfMceMJXcfOceMXcfPceMXcfQceMXcfRceMXcfSceMJXcfUceMJXcfW",
    "ceMXcfXceMJXcfZceMXcgAceMJXcgCceMXcgDceMXcgEceMXcgFceMXcgGceMXcfLceJXcfHcePXcfRcePXcgA",
    "cePXcfGcfSWclLbMclVbMclYbMcmAbMclUbMclZbMclTbMcnKbMcnMbMcmEbMcmDbMcmGbMcmHWcmNWcmMWcmOW",
    "cmIWcmYWcmRbMcnPbMcnVbMcnZbMcnXWcoGbMcoHWcoMbMcoNbMcoKWcpEWcpFkEbMcnTWcoTWcoSWcoUXcoTclO",
    "WcoXWcoRWcoVbMcpCWcjXXciOciPXciOciPXciOcpHXciOcpHXciOcjWXciOcjWXciOcoTXciOcoTXciOcoSXciO",
    "coSXciOcoUXciOcoUXciOcpCXciOcpCXciOcpCXciOcjXXciOcjXXciOcjXbMcoYXciOciUXciOciVXciOcjTX",
    "ciOcjXXciOcjYXciQciUXciQciVXciQciWXciQcjTXciQcjXXciQcjYXciSciUXciSciVXciSciWXciScjTXciS",
    "cjXXciScjYXciTciUXciTcjTXciTcjXXciTcjYXciUciVXciUcjTXciVciUXciVcjTXciWciUXciWciVXciWcjTX",
    "cjBciUXcjBciVXcjBciWXcjBcjTXcjDciVXcjDcjTXcjEciUXcjEciVXcjEciWXcjEcjTXcjFciVXcjFcjTXcjG",
    "cjTXcjHciUXcjHcjTXcjIciUXcjIcjTXcjPciUXcjPciVXcjPciWXcjPcjTXcjPcjXXcjPcjYXcjQciVXcjQcjTX",
    "cjQcjXXcjQcjYXcjRciPXcjRciUXcjRciVXcjRciWXcjRcjSXcjRcjTXcjRcjXXcjRcjYXcjSciUXcjSciVXcjS",
    "ciWXcjScjTXcjScjXXcjScjYXcjTciUXcjTciVXcjTciWXcjTcjTXcjTcjXXcjTcjYXcjUciUXcjUciVXcjUciWX",
    "cjUcjTXcjUcjXXcjUcjYXcjVciUXcjVcjTXcjVcjXXcjVcjYXcjYciUXcjYciVXcjYciWXcjYcjTXcjYcjXXcjY",
    "cjYXciYclKXciZclKXcjXclKbFbGckAckFbFbGckBckFbFbGckCckFbFbGckDckFbFbGckEckFbFbGckFclKXciO",
    "ciZXciOcjAXciOcjTXciOcjUXciOcjXXciOcjYXciQciZXciQcjAXciQcjTXciQcjUXciQcjXXciQcjYXciSciZX",
    "ciScjAXciScjTXciScjUXciScjXXciScjYXciTciZXciTcjAXciTcjTXciTcjUXciTcjXXciTcjYXcjPcjXXcjP",
    "cjYXcjQcjXXcjQcjYXcjRciPXcjRcjSXcjRcjTXcjRcjXXcjRcjYXcjScjTXcjScjXXcjScjYXcjTciPXcjTcjTX",
    "cjUciZXcjUcjAXcjUcjTXcjUcjUXcjUcjXXcjUcjYXcjXclKXcjYciZXcjYcjAXcjYcjTXcjYcjUXcjYcjXXcjY",
    "cjYXciOciUXciOciVXciOciWXciOcjTXciOcjVXciQciUXciQciVXciQciWXciQcjTXciQcjVXciSciUXciSciVX",
    "ciSciWXciScjTXciScjVXciTcjTXciUciVXciUcjTXciVciUXciVcjTXciWciUXciWcjTXcjBciUXcjBciVXcjB",
    "ciWXcjBcjTXcjDciVXcjDciWXcjDcjTXcjEciUXcjEciVXcjEciWXcjEcjTXcjFciVXcjGcjTXcjHciUXcjHcjTX",
    "cjIciUXcjIcjTXcjPciUXcjPciVXcjPciWXcjPcjTXcjQciVXcjQcjTXcjRciUXcjRciVXcjRciWXcjRcjSXcjR",
    "cjTXcjSciUXcjSciVXcjSciWXcjScjTXcjScjVXcjTciUXcjTciVXcjTciWXcjTcjTXcjUciUXcjUciVXcjUciWX",
    "cjUcjTXcjUcjVXcjVciUXcjVcjTXcjVclKXcjYciUXcjYciVXcjYciWXcjYcjTXcjYcjVXciOcjTXciOcjVXciQ",
    "cjTXciQcjVXciScjTXciScjVXciTcjTXciTcjVXcjBcjTXcjBcjVXcjCcjTXcjCcjVXcjRcjSXcjRcjTXcjScjTX",
    "cjUcjTXcjUcjVXcjYcjTXcjYcjVbFcjOckCckFbFcjOckDckFbFcjOckEckFXcjFcjXXcjFcjYXcjHcjXXcjHcjY",
    "XcjIcjXXcjIcjYXcjBcjXXcjBcjYXcjCcjXXcjCcjYXciVcjXXciVcjYXciUcjXXciUcjYXciWcjXXciWcjYXcjD",
    "cjXXcjDcjYXcjEcjXXcjEcjYXcjCciUXcjCciVXcjCciWXcjCcjTXcjCciZXcjBciZXcjDciZXcjEciZXcjFcjXX",
    "cjFcjYXcjHcjXXcjHcjYXcjIcjXXcjIcjYXcjBcjXXcjBcjYXcjCcjXXcjCcjYXciVcjXXciVcjYXciUcjXXciU",
    "cjYXciWcjXXciWcjYXcjDcjXXcjDcjYXcjEcjXXcjEcjYXcjCciUXcjCciVXcjCciWXcjCcjTXcjCciZXcjBciZX",
    "cjDciZXcjEciZXcjCciUXcjCciVXcjCciWXcjCcjTXcjBcjVXcjCcjVXcjFcjTXcjBciUXcjBciVXcjBciWXcjC",
    "ciUXcjCciVXcjCciWXcjFcjTXcjGcjTXciPcjZXciPcjZfObFciSciUcjTbFciSciVciUbFciSciVciUbFciSciV",
    "cjTbFciSciWcjTbFciScjTciUbFciScjTciVbFciScjTciWbFciUcjTciVbFciUcjTciVbFciVcjTcjYbFciVcjT",
    "cjXbFcjBciVciUbFcjBciUciVbFcjBciUcjXbFcjBcjTciVbFcjBcjTciVbFcjBcjTciUbFcjBcjTcjTbFcjBcjT",
    "cjTbFcjDciVciVbFcjDciVciVbFcjDcjTcjTbFcjCciVcjTbFcjCciVcjTbFcjCciUcjYbFcjCcjTciWbFcjCcjT",
    "ciWbFcjCcjTcjTbFcjCcjTcjTbFcjEciVcjXbFcjEciWcjTbFcjEciWcjTbFcjFcjTciVbFcjFcjTciVbFcjFcjT",
    "cjTbFcjFcjTcjYbFcjHciUcjTbFcjHcjTcjTbFcjHcjTcjTbFcjHcjTcjXbFcjIcjTcjTbFcjIcjTcjYbFcjIcjT",
    "cjXbFcjPciWcjTbFcjPciWcjTbFcjQcjTciVbFcjQcjTcjTbFcjSciVcjTbFcjSciVcjYbFcjSciVcjXbFcjSciU",
    "ciUbFcjSciUciUbFcjSciWcjTbFcjSciWcjTbFcjScjTciVbFcjScjTciVbFcjTciVciUbFcjTciVcjTbFcjTciV",
    "cjYbFcjTciUciVbFcjTciUcjTbFcjTciWciUbFcjTciWcjTQbFcjTciUciWbFcjVcjTciUbFcjVcjTcjTbFcjU",
    "ciVcjTbFcjUciVcjXbFcjUciUcjTbFcjUciUcjTbFcjUciUcjXbFcjUcjTcjYbFcjUcjTcjXbFcjYcjTcjTbFcjY",
    "cjTcjTbFciQciWcjYbFciSciUcjYbFciSciUcjXbFciSciWcjYbFciSciWcjXbFciScjTcjYbFciScjTcjXbFciU",
    "cjTcjYbFciUciVcjXbFciUcjTcjXbFcjBciWcjXbFcjDciVcjYbFcjCciVcjYbFcjEciVcjYbFcjSciUcjYbFcjS",
    "cjTcjYbFcjYciVcjYbFcjYciUcjYbFcjYcjTcjYbFcjTcjTcjYbFcjQcjTcjYbFcjUciVcjYbFcjQcjTciVbFcjS",
    "ciVcjTbFcjHcjTcjYbFcjRcjTcjYbFcjUciUciVbFcjTciWcjYbFcjSciUcjTbFcjRcjTcjTbFcjSciUcjTbFcjU",
    "ciUciVbFciUciVcjYbFciVciUcjYbFcjTciUcjYbFcjPcjTcjYbFciQciVcjYbFcjRcjTcjTbFcjHciUcjTbFcjD",
    "cjTcjTbFcjBciWcjYbFcjUciUcjYcMjXbFcjDcjScpEbFcjQcjScpEbNciPcjScjScjVbNciPcjRciQciZbNcjT",
    "ciVcjTciXbNcjDcjScjHcjTbNciZcjBcjWcjSbNcjHcjScjYcjVbNcjWcjBcjScjTbFcjDcjScjXfVcjDcjScjX",
    "bGciPcjScjScjVbGcjHcjScjYcjVbGcjWcjBcjScjTcTciUcjSbGciUcjSciPcjScjVbNciZcoYciPcjSYfAM",
    "dsdWMdaaYJUdsdLMdseMMdsdJUdaaJcFeYJMdgcZMdgdBWdRUdsfLMdscIMdscHUdabTUdabZUdacHUdacLbK",
    "dacJQMdseEMdseDXbGbdTXbGbdTXbGbdTXbGbdTbEdRMdsgIMdadKRMdsfXMdsfZMdsfVMdshAMdgeMUdsgVM",
    "dsdSMdsdRUdadDMdshGMdshEUdshBMdshAMdsgMMdsgLMdsgNJMdsfKUdshPMdsgPbHXbGcjZXcjOcjZXbGckAIX",
    "bGckBJXbGckCXcjOckCXbGckDXcjOckDXbGckEXcjOckEXbGckFXcjOckFXbGckGXcjOckGUdqbNUdqbOUdqbPU",
    "dqbQUdqbRbEciOWciPbMciQWciRbMciSbMciTbMciUbMciVbMciWWciXWciYWciZWcjAbMcjBbMcjCbMcjDbMcjE",
    "bMcjFbMcjGbMcjHbMcjIbMcjPbMcjQbMcjRbMcjSbMcjTbMcjUbMcjVWcjWWcjXbMcjYXcjSciKXcjSciKXcjS",
    "ciLXcjSciLXcjSciNXcjSciNXcjSciPXcjSciPRKJkAdsnOiEdsmIlGdsnOUdczQMdsqTUdanMMdanZMdaeKM",
    "daeUMdahYMdahXMdahWMdahVMdahUMdafPMdafOMdafNMdagYMdaeUMdaiHMdaiGMdaiFMdaiEUdaiDMdaiCM",
    "daiBMdaiAMdahZMdahYMdahXMdahWMdahVMdahUMdahTMdahSMdahQMdahPMdahOcAdahNMdahLMdahJMdahHM",
    "dahFbSdahDMdahCMdahBcAdahAMdagZMdagWUdakJKUdmjPMdmdDMdmjQUdmdDbCdmjScAdmdEMdmjEbCdmjZM",
    "dmjBdGdmkAZcAdmhDRcAdmhFRcAdmhHRbCdmhJZUdsrEMdsqWXbGbdSMdsrEMdsrGMdgoBJMdexIbKdgfHMderLM",
    "depVfHdSJiAJfWJQJeQReIkNblWbPYbHnWZbbCJeAZIoNoEboBiYZpCeRiQbHlCcVjGbPnGbPjGJlKbHeImZmLbO",
    "bkIRdCbXlFbObHlCbHmIcNqAdLIdNbNJeTbNJcHbNJTbNJdKJeQJcEJQZqAdTdrScVgUdDcMhLIUdusVMdvlTM",
    "duvBMduxUJMduuUMbixEMduuUMduuWUduxXMdkpWMduxYMduxTMduuXMduxPMduxSMduxVMduvPMdvjYMduvQM",
    "duxSMduwQUduvFMduxRLddoYMbkjVMduxSLddoWMduwOLddoVMdvmGUduxPMdvrOMduxOLddoRUduxNMduxMM",
    "duvZMduwCMbiyOMduwDMduxJMdfaTJMduxFUduwOMduwZbCdvfILddoBLddoUvHbWRIJnOJQZIRhCJwEcNcUoVfW",
    "JQbPkEZiIbPiIlTrGbHgERpKJQbPcMJYJiYRYbHdCcFcUcFtSjXmAbHdScVqQZiYRiIbPiAcFbGdTcEyRwMqZpV",
    "cMeBpScFoEcNdCbXeYgXbGZiYcNQcmBjOJmYJYRQeZbWcNcUkFoEcNmYgViAlTiQgFhCcVyAbHlCcVtCJbOeBhS",
    "cFdCbXqIJfOcNmAcVbdOJgEdLfOJoMtDcEJIJbGJeQJdKbXsEbPdCbXbGJcMRQRgUJcEJQJbOJdCRQRYRIbXIbP",
    "cERcEZbOdLdCJIRIJlSJdCJIRIJbGJdCJQcNQiZbcIJbOjHwEcNdCbzDqQRlSkNvGdLdCbXeAfXrWbXdCbXgEiR",
    "iIReQbHhCceZsMbeVjZbGpSdTcMRIRcMJQJjGJQRdScVdCvPcMRoERdKiJwEcNzOeBwMcFdCbaNcMbbDkMeJdCbX",
    "cUJnWJeIdDiYZjWRgUJeIwNcEJQJnOZIJQJcUcNdCbXbWJQJlKJQJbWcFdCbXnObHdCcxThScFfGJmQZiYbaFIeR",
    "pKeBkyAbfLbiEJbOdLciIbffDbeMeBmrWeZgUdDbvhGbPgxKdcyZrWunPgtCcFjOJdCbHyYJdCbXjGRbWdDvOdD",
    "dCJcEJgMbPfWfcZrWciZjZbGsEbPhVbBRhSnPxCbHrOcFfGtTbOdLcEcVdjjKmRjWbdXbjKdyzHbGJcEJQJdlOeR",
    "IiZYRIeJbGcNerWbbiFbgYbPeAZcUcFdCRbGbIbunXcnWiEgsjTdGgsmQYZfeEbXhCeRfGeRoERhCcVbjSsNcxS",
    "dDmARqIXgufVgugJXgufWgugJbFgufWgugJgugSbFgufWgugJgugTbFgufWgugJgugUbFgufWgugJgugVbFgufW",
    "gugJgugWeIcOtSXgujPgugJXgujQgugJbFgujPgugJgugSbFgujQgugJgugSbFgujPgugJgugTbFgujQgugJgugT",
    "mYgNvOblPgEdTgEdTbaUcVhSbpPiEgvcHiEgvdHiEgveHcIgvfHJfSgvfHiEgvgHiEgvhHMgviHJUgviHRMgviHR",
    "UgviHRbKgviHJcQgviHbKgvjHJMgvjHJcIgvjHJdOgvjHiEgvkHiEgvlHUgvmHJbKgvmHRcQgvmHJcIgvmHJiE",
    "gvnHUgvoHJbKgvoHJbSgvoHJMgvoHZcIgvoHJiEgvpHiEgvqHiEgvrHiEgvsHiEgvtHiEgvuHiEgvvHiEgvwHiE",
    "gvxHiEgvyHiEgvzHiEgwaHiEgwbHMgvuHMgvkGRfKguvVMguwFcIguvVMgjkCfKguwVWblBcAguwVMgjlHMguxRM",
    "guxPMguxOMguxDMguxJMguxLfKguyBMguyLcIguyBMgjmIfKguzBWblBcAguzBMgjnNMguzXMguzVMguzUMguzJM",
    "guzPMguzRfKgvaHMgvaRcIgvaHMgjoOfKgvbHWblBcAgvbHMgjpTMgvcDMgvcBMgvcAMgvbPMgvbVMgvbXfKgvcN",
    "MgvcXcIgvcNMgjqUfKgvdNWblBcAgvdNMgjrZMgveJMgveHMgveGMgvdVMgveBMgveDfKgveTMgvfDcIgveTM",
    "gjtAfKgvfTWblBcAgvfTMgjuFMgvgPMgvgNMgvgMMgvgBMgvgHMgvgJWbmBRdGgwpQdGgwqAdGgwqKdGgwqUdG",
    "gwrEhsQeRbOJeQnbTjObXbWcnPcEJfGRcEJQJbObPcYgygUbCgygTdOgygSMgygQUgygPMeovHMgybIMgygKM",
    "gygJMgyaVMgydCMgybXcYgyiBUgyiAUgyhYMgyhXcAgyhWUgyhVMgyfEMgyhMMgyhOMgyhFMgyeIMeoyTMgyeEkF",
    "IbiNnWZeIRdCbHQduNjOfHrWbPIfmVmYcnXnGbHIchDjOJgUcNQcqZcEJbGJQJeQJciQReYmRkPbImYbHdCbHQ",
    "jhPuYxLsUchTUhctLMhctIMhctGJMhcsJMhctGMhctMMhctDMhcsLbKhcsTMhctNMhctIMhctBMhctOMhctCM",
    "hctUMhctSUhcuDMhcuBMhcuAMhctVMhctUMhctTMhcrUMhcoXMhcpXMhcrWJMhcuRMhcuOJMhctPRMhcuSJMhctR",
    "bKhctZMhcuTMhcuOMhcuHMhcuUMhcuIJMhcuYUhcvJMhcvHJMhcvBJMhcuZbXMhcvUbHMhcvYJMhcuXJMhcvFJM",
    "hcvFMhcvZMhcvUJMhcwAMhcvOJMhcwERMhcwNJMhcwHJMhcwFJMhcrJJMhcuIJMhcxDMhcxAJMhcwBRMhcxEM",
    "hcwVMhcwDMhcwLJUhcwLMhcxFMhcxAMhcwTMhcxGMhcwUJMhcxKUhcxVMhcxTJMhcxNMhcxMMhcxLMhcvMJMhctP",
    "JUhcyJMhcyGMhcyEUhcxHMhcyEMhcyKMhcyBMhcxJJbChcxRMhcyLMhcyGMhcxZMhcyMMhcyAMhcySMhcyQUhczB",
    "MhcyZMhcyYMhcyTMhcySMhcyRbPMhczPMhczMMhczKJMhcyNMhczKMhczQMhczHMhcyPJbChcyXMhczRMhczMM",
    "hczFMhczSMhczGMhczYMhczWUhdaHMhdaFMhdaEMhczZMhczYMhczXqBQdfDnObHbeUdTeQReQJeQJlKdLXbWbSX",
    "bXbSXbYbSXbZbSXcAbSXcBbSXcCbSXcDbSXcEbSXcFbSbObFbOdTbPbFbOdUbPbFbOdVbPbFbOdWbPbFbOdXbPbF",
    "bOdYbPbFbOdZbPbFbOeAbPbFbOeBbPbFbOeCbPbFbOeDbPbFbOeEbPbFbOeFbPbFbOeGbPbFbOeHbPbFbOeIbPbF",
    "bOeJbPbFbOeKbPbFbOeLbPbFbOeMbPbFbOeNbPbFbOeObPbFbOePbPbFbOeQbPbFbOeRbPbFbOeSbPbFsfKeLsfL",
    "MhgdKMhgcWXdVdWXePeSIiEhgdRXeAeOXeFeOXeLdWXeLeLbFeIeIeOXePdViAXeFdVXeFdWXeFeKkUXdWeCiYrH",
    "iAXsjJshNXslNslNMgodXeBMfvkFMfyaSMgaxAMgodWMgcwUMfywXMfgkPMfywKMgcwAMftyVMfpuNMfueCMgbmD",
    "MfwlTMgbtPMfudJMgboDMflfJMfohNMffjUMfyzCMgatOMfqpEMfviGMfvaXMgdcZMgdcRMfeaJMfxcOMgdbKM",
    "gawPMfveEMffcQMfvlEMfmqZMfmhLMgawAMfqvLMftqZMftrBMfohPMgblVMgafSMfdrAbHbFsfKbnbWsfLbFsfK",
    "bdoJsfLbFsfKbdtKsfLbFsfKbirHsfLbFsfKbqrXsfLbFsfKblgDsfLbFsfKbtaDsfLbFsfKbfjXsfLbFsfKbmjV",
    "sfLcFMfwnHMgayCeJbWbvLlrCZfGZeAZcpCbXdSbHIeRdSbHrGcNdCbXmIcNjGRdSbHQeJcUmBebWcNeIReAZdKZ",
    "rOJIbHeYRdSbHdCcFbtGJbcIdGhkhKImeRtloQjXbzwIRcqiQRdklKeRhjKbdeVMjyeTMjyeZMjyeRMdpmVMjxtS",
    "MjxqTMjxqHMjxnPMjxjAMjxhWMjxeXMjxfWMkhxMMdnpBMjxbDMjxaXMjxaIMjwzQMdoaGMkhwSMjxaJMjwyYM",
    "dnyPMjwyQMjwyEMjyaFMjwxYMjwxQMbmsRMjwvGMjwuTMkhvSMjwsRMjwsHMjwqQMjwqMMkhtVMjwnMMjwnLM",
    "jwmLMjwlQUjwlGMjwkQMjwiTMjwiMMjwiEMjwhGMjwgXbEbfqDMdmdSMjliBMjweEMjwdKMdlrXMjwdAMjwcVM",
    "jwcBMjvwGMjwaFMjvzQMjvyLMjvwGMjvtBMjvsCMjvpOMjvoZWbgkAMjvnAMjvmJMjvmCMjvlOMjuyNMjvjAM",
    "juyOMjvgFMjveXMjwwNMjugPMjurSMjuqHMjupJMjuuKMjuoAMjuoCMjujKMdidPMjugUMjugQMjugCMjufJM",
    "jufCMjucRMdhmMMdhjZMjtxMMjtvSMjtvHMjtyJMjtsYMkheFMkhdSMjtmVWbioKMdgiEMjtfUMjtfAMjteMM",
    "jteBMdfvLMjtdRMjtdLMjrwZMjtcLMkgzDMjtaDMjszQMjswNMjsyNMdeuHMjsrPMdeuHMjsqAMjsqEMjspOU",
    "jslSMkgsYMjskTMjsjDMjsiJMjsgSMkgrEMddlEMkgqGMjseDMjseBMjsdZMjsdGMbgeVMjsbIWhzfTMjeuSW",
    "bkaSMkgnVMcwyHMcfcGMjrxVMjrxNMkgmYMjrvUMjrtWMjrtNMjrsGMjrnBMkgjVMkglAMjrmLMdblWMjrkOM",
    "jrfQMjrfNMjrfMMjrfPMjrdWMjrdDMjrbUMjrcJMjrbZMjraFMjqzMMjqzJMjqyKMjqyAMjqvNMjqsIMjqrAM",
    "jqmHMczxCMjqnCMjqpQMjqlNMjqkNMjqgVMczoNMjqeNMjqiDMjqjGMkgbSMjqbYMjqbEMjqaAMjqbNMkfzNM",
    "jptHMjpsFMcyaQMjpnSMjpdCMjpjWMkftDMjphEMkftWMkfvHMjxgAMjxfYMjpdCMjpgZMjfkJMkclIMjpcJM",
    "jpcGMjpcBMjozTMjpaFMcwqSMkfrXMjotXMjoyLMjoqPMjooRMcwkKMjooKMjosSMjojIMkfpAMjohQMjodYM",
    "jobGMjntZMcvoZMjnsCMkfkOMjnpMMcuvHMjnnPMkfiQMjnmNMjnkVUjnjVMcucWMdfhLMctyTMjneIMcthNM",
    "jnaBMjmzOMjndNMjmwVMjmvIMjmtEMjmvHMjmtUMjmtGMjmsUMcteEMjmvZMjmmJMjmjZMkfaTMjmgMMjmgRM",
    "csnSMjmoRMjmaJMcsiKMcsgPMjlxCMjlsSMjltUMjltYMkexKMjlsFMjlqHMjlqOMjloNMdokCMjliTMcrfEM",
    "jlfMMcqsQMjlaEMjkzSMjkySMcpvNMjkwYMjkwEMcpkBMcpbNMjknMMjkmWMkenMMjklYWxtOMjkfVMjkfBMjkeH",
    "MjkdOMjkaYMkejOMjjxOMcnnJMjjwQMcnjXMjjuUMddqWMjjoSMcmfYMcmfCMclzTMkebIMkeaXMjjgEMcltEM",
    "cltGMclrUMclqVUjjeTMjjeUMjjdEMkdzKMjjaTMkdyZMkdvYMckoMMjitKMjirBMjioQMkdtEMcjuQMjijLM",
    "cjqGMcjoQMjihJMjidWMkdqNMjiaRMjiaIMjiaEMcioEWiufVMjhuFMkdiSMchsWMjhmAMjhlYMkdhLMchkVM",
    "jhbWMkdcXMjhbCMjhbIMjhaGMcghHMjgwNMkczKMjgsTMjgqNMjgnZMkcxPMcfhQMcfgMMkcwHMcfaYMjgcIM",
    "cexDMjgbJMjfxNMjfxDMcehLMceeRMjftTMcdzQMjftFMcxaVMkcsAMjfqUMjfnSMkcqBMjflNMjuaZMcdgIM",
    "cdfVMcwzEMcwyWMjfeGMjfeEMjaaHMkcmTMjeyWMjezDMjeyMMjxcHMjexUMjexTMjexKMjevWMcbxRMjevZM",
    "jetWMjerFMjeoKMjetTMjenWMjemHMjeiAMjesBMjenNMjenMMjemXMcboOMcbcSMcbiNMkcgIMjecLMjecKM",
    "jebCMbysFMjdyEMcalTMkceRMkceOMcagTMbzvRMkceHMjdpJMjdoYMjdoOMjdoNMjdmCMjdnKMjdiHMjdkAM",
    "jdeGMjdhKMjdeWMjddWMkcaQMjdaLMjczGMkbzLMjcvRMjcvPMbxtMMjcrFMjcqZMkbxJMjcpZMkinNMbwxHM",
    "bwqGMkbsHMkbrZMjbzZMjbxBMjbrBMjbjHMbvkLMjbgBMjbfGMjbbVMjayIMbulTMdnpDMjavFMjavVMjatWM",
    "dngXMjalEMjahJMbrySMbrxSMizuCMizqOMizpJMbrlNMizpBMizeDUiyyBMizbQMiynAMiylZMbpqPMixxRM",
    "karQMixwBMbpcCMkaoQMixlWMjtbUMixiGMbnqVMbniRMkajQMkajJMixbEMbmpTMkahEMbmkLWcfpBMiwyPM",
    "blzNMiwrOMkacMMiwoXMiwkCMiwjCMiwgVMjzwSMbjxXMivwIMivkTMivdNMjznBMjzlXMiuzOMbhuWMjzlPM",
    "bhsVMbhiRMbhdRMiumSMjziEMiukKMiukGMiukAMiujRMiujLMiuiBMbfwFrvLcglSbPdwmImkdjLcvY" ]

def runs : List Run :=
  let numbers := Text.Packed.numbers packedRuns
  runsWithin numbers.length numbers

/-- The rule of the code point that is `place` after the start of a list of runs, and how far it is
from the start of its run. -/
def ruleAt : List Run → Nat → Rule × Nat
  | [], place => (.refused, place)
  | run :: rest, place =>
    if place < run.length then (run.rule, place) else ruleAt rest (place - run.length)

/-- The code points that stand for a code point, which is `place` after the start of its run. -/
def Rule.apply (rule : Rule) (place code : Nat) : Option (List Nat) :=
  match rule with
  | kept => some [code]
  | refused => none
  | dropped => some []
  | raised distance => some [code + distance]
  | lowered distance => some [code - distance]
  | paired => some [if place % 2 = 0 then code + 1 else code]
  | replaced other => some [other]
  | spelled codes => some codes

/-- The characters that stand for a character in a name; none where it has no place in names. -/
def mapped? (c : Char) : Option (List Char) :=
  let found := ruleAt runs c.toNat
  (found.1.apply found.2 c.toNat).map fun codes => codes.map Char.ofNat

/-- Whether a character stands for itself. -/
def isKept (c : Char) : Bool := mapped? c == some [c]

end ScrobbleRelay.Web.Domain
