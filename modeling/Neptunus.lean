import Neptunus.Go.Numeric
import Neptunus.Go.Strconv
import Neptunus.Go.Bufio
import Neptunus.Go.Strings
import Neptunus.Go.Base64
import Neptunus.Core.Payload
import Neptunus.Core.Event
import Neptunus.Config.Pipeline
import Neptunus.Config.Mapstructure
import Neptunus.Pipeline.Build
import Neptunus.Pipeline.Run
import Neptunus.Outputs.Opensearch
import Neptunus.Outputs.Googlechat
import Neptunus.Inputs.Http
import Neptunus.Common.BasicAuth
import Neptunus.Starlark.Value
import Neptunus.Starlark.Bindings
import Neptunus.Starlark.Methods
import Neptunus.Starlark.Script
import Neptunus.Processors.Converter
import Neptunus.Processors.Starlark
import Neptunus.Processors.Drop
import Neptunus.Filters.NoErrors
import Neptunus.Processors.Llm
import Neptunus.Tools.TrainingData
import Neptunus.Processors.LlmCsv
